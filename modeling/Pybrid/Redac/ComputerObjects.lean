import Pybrid.Redac.Serializer
import Pybrid.Redac.SharedRouting

/-! Computers as objects that share the routing tables: building, routing, serializing, resetting. -/

namespace Pybrid

/-- A T-block of a carrier: which object it is, and its location. -/
structure BlockObject (location : Type) where
  ref : ℕ
  location : Option location

/-- A summation block; its outputs are sets of any integers. -/
structure IBlockObject where
  outputs : Vector (Finset Int) 16
  upscaling : Vector Bool 32

/-- A cluster with the blocks of its signal path. -/
structure ClusterObject where
  location : Option ClusterLoc
  ublock : UBlock
  cblock : CBlock
  iblock : IBlockObject

/-- A carrier; its T-blocks are reached through references. -/
structure CarrierObject where
  path : Path
  location : Option CarrierLoc
  clusters : List ClusterObject
  tblock : Option (BlockObject CarrierLoc)
  st0block : Option (BlockObject Int)
  st1block : Option (BlockObject Int)
  st2block : Option (BlockObject Int)

/-- A REDAC object; its carriers are the entities it was built with and those added later. -/
structure Computer where
  carriers : List CarrierObject

namespace IBlockObject

/-- A new summation block. -/
def new : IBlockObject := ⟨Vector.replicate 16 ∅, Vector.replicate 32 false⟩

/-- Some output other than this one already sums the lane. -/
def otherOutput (i : IBlockObject) (lane output : Int) : Option (Fin 16) :=
  (List.finRange 16).find? fun other => (other.val : Int) ≠ output ∧ lane ∈ i.outputs.get other

/-- Sum a lane into an output. -/
def connect (i : IBlockObject) (lane output : Int) : Except PyError IBlockObject := do
  match i.otherOutput lane output with
  | some other =>
    throw ⟨.signalConnection, "One of inputs \x7b" ++
      s!"{lane}" ++ "\x7d" ++ s!" is already connected to output {other}. " ++
      "Use the force argument to ignore."⟩
  | none =>
    let index ← Python.subscript 16 output
    return { i with
      outputs := i.outputs.set index.val (i.outputs.get index ∪ {lane}) (output_lt index) }

/-- Some output sums the lane. -/
def sums (i : IBlockObject) (lane : Int) : Bool :=
  i.outputs.toList.any fun summands => lane ∈ summands

end IBlockObject

namespace CBlock

/-- A new coefficient block. -/
def new : CBlock := ⟨Vector.replicate 32 Factor.default⟩

/-- Set the factor of a lane. -/
def assignFactor (c : CBlock) (lane : Int) (coefficient : Number) : Except PyError CBlock := do
  -- The element is looked up before the value is validated.
  let index ← Python.subscript 32 lane
  let factor ← Factor.validate coefficient
  return { c with elements := c.elements.set index.val factor (lane_lt index) }

end CBlock

namespace Memory

/-- Register the T-block of a carrier under its location. -/
def addTBlock (block : BlockObject CarrierLoc) : MemoryM Unit := fun m =>
  match requireLoc block.location with
  | .ok loc => .ok () { m with carriers := m.carriers.register loc block.ref }
  | .error error => .error error m

/-- Register a backplane T-block under its stack and partition. -/
def addTBplBlock (index : Int) (block : BlockObject Int) : MemoryM Unit := fun m =>
  match requireLoc block.location with
  | .ok stack => .ok () { m with planes := m.planes.register (stack, index) block.ref }
  | .error error => .error error m

/-- `Routing.add_carrier`: register the T-blocks a carrier has. -/
def addCarrier (carrier : CarrierObject) : MemoryM Unit := do
  carrier.tblock.toList.forM addTBlock
  carrier.st0block.toList.forM (addTBplBlock 0)
  carrier.st1block.toList.forM (addTBplBlock 1)
  carrier.st2block.toList.forM (addTBplBlock 2)

/-- Reset the T-blocks of a carrier, wherever they are registered. -/
def resetCarrier (m : Memory) (carrier : CarrierObject) : Memory where
  carriers := m.carriers.changeAll (carrier.tblock.toList.map (·.ref)) TBlock.reset
  planes := m.planes.changeAll ((carrier.st0block.toList ++ carrier.st1block.toList ++
    carrier.st2block.toList).map (·.ref)) BackplaneTBlock.reset

end Memory

/-- Calls on a computer raise, and keep what was changed before. -/
abbrev ComputerM := EStateM PyError (Computer × Memory)

namespace Computer

/-- The position of the cluster at a location: its carrier, and its number there. -/
def locate (computer : Computer) (loc : ClusterLoc) : Except PyError (ℕ × ℕ) :=
  -- The first carrier at the location decides, and its clusters are subscripted.
  match computer.carriers.findIdx? fun carrier =>
      carrier.location = some ⟨loc.stackId, loc.carrierId⟩ with
  | some place =>
    let count := ((computer.carriers[place]?).map fun carrier => carrier.clusters.length).getD 0
    (Python.subscript count loc.clusterId).map fun number => (place, number.val)
  | none =>
    .error ⟨.exception, s!"Cluster not found for Loc: {loc.stackId}/{loc.carrierId}/{loc.clusterId}"⟩

/-- The cluster at a position. -/
def cluster? (computer : Computer) (place : ℕ × ℕ) : Option ClusterObject :=
  (computer.carriers[place.1]?).bind fun carrier => carrier.clusters[place.2]?

/-- Replace the cluster at a position. -/
def setCluster (computer : Computer) (place : ℕ × ℕ) (cluster : ClusterObject) : Computer where
  carriers := computer.carriers.modify place.1 fun carrier =>
    { carrier with clusters := carrier.clusters.set place.2 cluster }

/-- Change a cluster in place, unless that raises. -/
def onCluster (place : ℕ × ℕ) (change : ClusterObject → Except PyError ClusterObject) :
    ComputerM Unit := fun (computer, memory) =>
  match computer.cluster? place with
  | none => .error Python.indexError (computer, memory)
  | some cluster =>
    match change cluster with
    | .ok changed => .ok () (computer.setCluster place changed, memory)
    | .error error => .error error (computer, memory)

/-- Work on the shared blocks. -/
def onMemory (work : MemoryM Unit) : ComputerM Unit := fun (computer, memory) =>
  match work memory with
  | .ok () memory => .ok () (computer, memory)
  | .error error memory => .error error (computer, memory)

/-- Find a cluster. -/
def findCluster (loc : ClusterLoc) : ComputerM (ℕ × ℕ) := fun (computer, memory) =>
  match computer.locate loc with
  | .ok place => .ok place (computer, memory)
  | .error error => .error error (computer, memory)

/-- `REDAC.add_carrier`. -/
def addCarrier (carrier : CarrierObject) : ComputerM Unit := do
  modify fun (computer, memory) => (⟨computer.carriers ++ [carrier]⟩, memory)
  onMemory (Memory.addCarrier carrier)

/-- `REDAC.route`: from a math element over the lanes to another one. -/
def route (srcMath : Int) (srcLane sinkLane : LaneLoc) (sinkMath : Int) (coefficient : Number) :
    ComputerM Unit := do
  let src ← findCluster srcLane.cluster
  let tgt ← findCluster sinkLane.cluster
  onCluster src fun cluster =>
    (cluster.ublock.connect srcMath [srcLane.laneId] false).map fun ublock => { cluster with ublock }
  onCluster src fun cluster =>
    (cluster.cblock.assignFactor srcLane.laneId coefficient).map fun cblock => { cluster with cblock }
  onMemory (Memory.route srcLane sinkLane)
  onCluster tgt fun cluster =>
    (cluster.iblock.connect sinkLane.laneId sinkMath).map fun iblock => { cluster with iblock }

/-- Reset the blocks of a cluster. -/
def resetCluster (cluster : ClusterObject) : ClusterObject :=
  -- Coefficients keep their factors: the reset of an element does not reach its computation.
  { cluster with ublock := .new, iblock := .new }

/-- `REDAC.reset`: every block of every carrier, also those that are shared. -/
def reset (state : Computer × Memory) : Computer × Memory :=
  (⟨state.1.carriers.map fun carrier =>
      { carrier with clusters := carrier.clusters.map resetCluster }⟩,
    state.1.carriers.foldl Memory.resetCarrier state.2)

/-- The carriers with their locations, sorted by location. -/
def sortedCarriers (computer : Computer) : Except PyError (List (CarrierLoc × CarrierObject)) := do
  let located ← computer.carriers.mapM fun carrier =>
    (requireLoc carrier.location).map fun loc => (loc, carrier)
  return located.mergeSort fun first second => first.1.le second.1

/-- The signal that arrives at a lane of a cluster, if it is used there and comes from somewhere. -/
def sinkSignal (computer : Computer) (tracer : Routing) (fuel : ℕ) (cluster : ClusterObject)
    (lane : Fin 32) : Fueled (Option Redac.Signal) := do
  let loc ← ExceptT.mk (some (requireLoc cluster.location))
  let target : LaneLoc := ⟨loc.stackId, loc.carrierId, loc.clusterId, lane.val⟩
  match ← ExceptT.mk (Tracer.findCoef tracer fuel target) with
  | none => return none
  | some source =>
    if ¬ cluster.iblock.sums lane.val then return none
    else
      let place ← ExceptT.mk (some (computer.locate source.cluster))
      let selected ← ExceptT.mk (some (Python.subscript 32 source.laneId))
      let select := (computer.cluster? place).bind fun cluster => cluster.ublock.outputs.get selected
      if select = some (-1) ∨ select = none then return none
      else return some ⟨source, target, cluster.iblock.upscaling.get lane⟩

/-- The lanes of all clusters, each of which may be a sink. -/
def sinks (computer : Computer) : List (ClusterObject × Fin 32) :=
  computer.carriers.flatMap fun carrier => carrier.clusters.flatMap fun cluster =>
    (List.finRange 32).map fun lane => (cluster, lane)

/-- The signals of all lanes of all clusters, in order. -/
def signals (computer : Computer) (tracer : Routing) (fuel : ℕ) : Fueled (List Redac.Signal) := do
  let found ← computer.sinks.mapM fun place => computer.sinkSignal tracer fuel place.1 place.2
  return found.reduceOption

/-- The numbers of the carriers, in the order of their locations. -/
def numberCarriers (sorted : List (CarrierLoc × CarrierObject)) : List CarrierLoc :=
  sorted.foldl (fun known located => (Redac.carrierIndex known located.1).2) []

/-- The dependency information of one carrier. -/
def dependencyItem (entityIds : List Path) (known : List CarrierLoc) (all : List Wire.Trace)
    (lanes : ℕ) (carrier : CarrierObject) : Except PyError Wire.Item :=
  (requireLoc carrier.location).map fun loc =>
    let (index, _) := Redac.carrierIndex known loc
    let own := all.filter fun trace => trace.source.carrier = index ∨ trace.sink.carrier = index
    ⟨carrier.path, some (.dependencyInfo ⟨entityIds, own, lanes⟩)⟩

/-- The dependency information of every carrier, once the carriers are registered. -/
def dependencyInfo (computer : Computer) (sorted : List (CarrierLoc × CarrierObject))
    (tracer : Routing) (fuel : ℕ) : Fueled (List Wire.Item) := do
  let found ← computer.signals tracer fuel
  let (all, known) := Redac.traces (numberCarriers sorted) found
  computer.carriers.mapM fun carrier => ExceptT.mk (some (dependencyItem
    (sorted.map fun located => located.2.path) known all (Redac.activeLanes found) carrier))

/-- Register the carriers of a computer with a tracer. -/
def registerCarriers (computer : Computer) :
    MemoryM (List (CarrierLoc × CarrierObject)) := fun m =>
  match computer.sortedCarriers with
  | .error error => .error error m
  | .ok sorted => (do sorted.forM fun located => Memory.addCarrier located.2; return sorted) m

/-- `serialize_dependency_info`: the tracer it makes registers the carriers in the shared tables. -/
def serializeDependencyInfo (computer : Computer) (fuel : ℕ) (m : Memory) :
    Option (Except PyError (List Wire.Item)) × Memory :=
  match computer.registerCarriers m with
  | .error error m => (some (.error error), m)
  | .ok sorted m => ((computer.dependencyInfo sorted m.view fuel).run, m)

end Computer

end Pybrid
