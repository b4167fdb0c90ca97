import Pybrid.Redac.Connections

/-! Devices that are added to a controller, and the carriers its computer gets from them. -/

namespace Pybrid

/-- A carrier board that may have a front plane. -/
structure FrontedCarrier (K C : Type) extends CarrierTree K C where
  /-- The path of the front plane. -/
  frontPlane : Option Path
  aclSelect : Option (List String)

/-- What the deserializer of a LUCIDAC builds of an entity. -/
inductive Found (C : Type) where
  | block (block : BlockTree C)
  | cluster (cluster : ClusterTree C)
  | carrier (carrier : FrontedCarrier (Found C) C)
  | device (path : Path) (carriers : List (Found C))

namespace LucidacDeserializer

/-- The deserializer counts the carriers to which it has given a location. -/
abbrev CounterM := EStateM PyError Nat

/-- Something that does not count. -/
def CounterM.ofExcept {α : Type} (result : Except PyError α) : CounterM α := fun counter =>
  match result with
  | .ok value => .ok value counter
  | .error error => .error error counter

variable {C : Type} (registry : List (EntityType × C))

/-- Collect one more child of a carrier. -/
def addChild (dispatch : PbEntity → Path → Option EntityLoc → CounterM (Found C))
    (carrier : FrontedCarrier (Found C) C) (child : PbEntity) :
    CounterM (FrontedCarrier (Found C) C) := do
  let below ← CounterM.ofExcept (Path.parse child.id)
  let path := carrier.path ++ below
  let id ← CounterM.ofExcept (Path.id path)
  let block (location : Option EntityLoc) : CounterM (BlockTree C) :=
    CounterM.ofExcept (RedacDeserializer.specFunctionBlock registry child path location)
  let stack := carrier.location.map (·.take 1)
  if id = "" then return carrier
  else if id = "T" then return { carrier with tblock := some (← block carrier.location) }
  else if id = "ST0" then return { carrier with st0block := some (← block stack) }
  else if id = "ST1" then return { carrier with st1block := some (← block stack) }
  else if id = "ST2" then return { carrier with st2block := some (← block stack) }
  -- A front plane is known by its name, because devices do not report a class for it.
  else if id = "FP" then
    return { carrier with frontPlane := some path, aclSelect := some (List.replicate 8 "INTERNAL") }
  else if RedacDeserializer.isClusterId id then
    let cluster ← dispatch child path (carrier.location.map (· ++ [(id.toNat?.getD 0 : Int)]))
    return { carrier with clusters := carrier.clusters ++ [cluster] }
  else return carrier

/-- The location a carrier is built with, unless it reports one: carriers are counted. -/
def defaultLocation (entity : PbEntity) (location : Option EntityLoc) :
    CounterM (Option EntityLoc) := do
  if location = none ∧ entity.locationV0 = none then
    let counter ← get
    set (counter + 1)
    return some [0, (counter : Int)]
  else return location

/-- A location on the wire replaces the one that was handed down. -/
def reportedLocation (entity : PbEntity) (location : Option EntityLoc) : Option EntityLoc :=
  match entity.locationV0 with
  | some (stack, carrier) => some [(stack : Int), (carrier : Int)]
  | none => location

/-- Build a carrier of its children. -/
def specCarrier (dispatch : PbEntity → Path → Option EntityLoc → CounterM (Found C))
    (entity : PbEntity) (path : Path) (location : Option EntityLoc) :
    CounterM (FrontedCarrier (Found C) C) := do
  let location ← defaultLocation entity location
  let type ← CounterM.ofExcept (EntityType.popFromDict entity)
  if type.class_ ≠ .carrier then throw Python.assertionError
  entity.children.foldlM (addChild registry dispatch)
    ⟨⟨path, reportedLocation entity location, some type, [], none, none, none, none⟩, none, none⟩

/-- Build a device of the carriers below it. -/
def specDevice (dispatch : PbEntity → Path → Option EntityLoc → CounterM (Found C))
    (entity : PbEntity) (path : Path) (location : Option EntityLoc) : CounterM (Found C) := do
  if location ≠ none then throw Python.assertionError
  let carriers ← entity.children.mapM fun child => do
    let below ← CounterM.ofExcept (Path.parse child.id)
    dispatch child below none
  return .device path carriers

/-- Build an entity by the handler of its class; calls nest only so deep. -/
def deserializeSpecification : Nat → PbEntity → Path → Option EntityLoc → CounterM (Found C)
  | 0, _, _, _ => throw ⟨.exception, "maximum recursion depth exceeded"⟩
  | depth + 1, entity, path, location => do
    match ← CounterM.ofExcept (EntityClass.ofValue entity.class_) with
    | .device => specDevice (deserializeSpecification depth) entity path location
    | .carrier =>
      return .carrier (← specCarrier registry (deserializeSpecification depth) entity path location)
    | .cluster =>
      return .cluster (← CounterM.ofExcept
        (RedacDeserializer.specCluster registry entity path location))
    | _ =>
      return .block (← CounterM.ofExcept
        (RedacDeserializer.specFunctionBlock registry entity path location))

end LucidacDeserializer

/-- The T-blocks that routers know, by the location of their carrier or by their stack and slot. -/
structure BlockRegistry (C : Type) where
  carrierTBlocks : EntityLoc → Option (BlockTree C)
  bplTBlocks : EntityLoc → Nat → Option (BlockTree C)

namespace BlockRegistry

variable {C : Type}

/-- Registering blocks raises, and keeps those registered before. -/
abbrev RegisterM (C : Type) := EStateM PyError (BlockRegistry C)

/-- The location of a block, which it must have. -/
def locationOf (block : BlockTree C) : RegisterM C EntityLoc := fun r =>
  match requireLoc block.location with
  | .ok loc => .ok loc r
  | .error error => .error error r

/-- Register the T-block of a carrier. -/
def addTBlock (block : BlockTree C) : RegisterM C Unit := do
  let loc ← locationOf block
  -- A T-block at another place is left out.
  if loc.length = 2 then
    modify fun r => { r with carrierTBlocks := Function.update r.carrierTBlocks loc (some block) }

/-- Register a backplane block. -/
def addTBplBlock (index : Nat) (block : BlockTree C) : RegisterM C Unit := do
  let loc ← locationOf block
  if loc.length < 1 then throw Python.assertionError
  modify fun r => { r with
    bplTBlocks := Function.update r.bplTBlocks (loc.take 1)
      (Function.update (r.bplTBlocks (loc.take 1)) index (some block)) }

/-- Register the blocks that a carrier has. -/
def addCarrier {K : Type} (carrier : FrontedCarrier K C) : RegisterM C Unit := do
  carrier.tblock.toList.forM addTBlock
  carrier.st0block.toList.forM (addTBplBlock 0)
  carrier.st1block.toList.forM (addTBplBlock 1)
  carrier.st2block.toList.forM (addTBplBlock 2)

end BlockRegistry

namespace Discovery

/-- A computer whose carriers are discovered. -/
structure DiscoveredComputer (C : Type) where
  carriers : List (FrontedCarrier (Found C) C)
  router : BlockRegistry C

namespace DiscoveredComputer

variable {C : Type}

/--
Add a carrier; other entities have no T-blocks to ask for.

The source lists those as well before it raises; this list is of the carriers only.
-/
def addCarrier (found : Found C) : EStateM PyError (DiscoveredComputer C) Unit := fun computer =>
  match found with
  | .carrier carrier =>
    -- The carrier is listed first, and stays listed if registering its blocks raises.
    match BlockRegistry.addCarrier carrier computer.router with
    | .ok () router => .ok () ⟨computer.carriers ++ [carrier], router⟩
    | .error error router => .error error ⟨computer.carriers ++ [carrier], router⟩
  | _ => .error ⟨.attribute, "object has no attribute 'tblock'"⟩ computer

/-- The cluster at a location. -/
def findCluster (computer : DiscoveredComputer C) (loc : EntityLoc) : Except PyError (Found C) := do
  if loc.length < 2 then throw Python.assertionError
  match computer.carriers.find? fun carrier => carrier.location = some (loc.take 2) with
  | some carrier =>
    match loc[2]? with
    | some index => (Python.subscript carrier.clusters.length index).map carrier.clusters.get
    | none => throw Python.indexError
  | none =>
    -- The message names the cluster, which the location need not have.
    if loc.length < 3 then throw Python.assertionError
    throw ⟨.exception, "Cluster not found for Loc: " ++
      String.intercalate "/" ((loc.take 3).map toString)⟩

/-- The carriers with their locations, sorted by location. -/
def sortedCarriers (computer : DiscoveredComputer C) :
    Except PyError (List (EntityLoc × FrontedCarrier (Found C) C)) := do
  let located ← computer.carriers.mapM fun carrier =>
    (requireLoc carrier.location).map fun loc => (loc, carrier)
  return located.mergeSort fun first second => ¬ second.1 < first.1

/-- The locations in the order in which the dependency information numbers them. -/
def numbers (sorted : List (EntityLoc × FrontedCarrier (Found C) C)) : List EntityLoc :=
  sorted.foldl (fun known located =>
    if located.1 ∈ known then known else known ++ [located.1]) []

/-- The paths of the carriers in the dependency information. -/
def entityIds (sorted : List (EntityLoc × FrontedCarrier (Found C) C)) : List Path :=
  sorted.map fun located => located.2.path

end DiscoveredComputer

/-- A controller with its computer. -/
structure Controller (C : Type) where
  connectionManager : ConnectionManager
  computer : DiscoveredComputer C
  clustersPerCarrier : AList fun _ : Path => Nat
  rawEntityDict : AList fun _ : String => PbEntity

/-- Calls on a controller raise, and keep what they changed before. -/
abbrev ControllerM (C : Type) := EStateM PyError (Controller C)

namespace Controller

variable {C : Type} (registry : List (EntityType × C)) (depth : Nat)

/-- A controller without devices; routers may know blocks of other computers. -/
def new (known : BlockRegistry C) : Controller C := ⟨.new, ⟨[], known⟩, ∅, ∅⟩

/-- Something that may raise, but changes nothing. -/
def ofExcept {α : Type} (result : Except PyError α) : ControllerM C α := fun controller =>
  match result with
  | .ok value => .ok value controller
  | .error error => .error error controller

/-- Let the computer add a carrier. -/
def onComputer (call : EStateM PyError (DiscoveredComputer C) Unit) : ControllerM C Unit :=
  fun controller =>
    match call controller.computer with
    | .ok () computer => .ok () { controller with computer }
    | .error error computer => .error error { controller with computer }

/-- Add a carrier to the computer, and note how many clusters it has. -/
def addCarrier (found : Found C) : ControllerM C Unit := do
  onComputer (DiscoveredComputer.addCarrier found)
  match found with
  | .carrier carrier => modify fun controller => { controller with
      clustersPerCarrier :=
        controller.clustersPerCarrier.insert carrier.path carrier.clusters.length }
  | _ => return ()

/-- What is built of an entity; each has a deserializer of its own, which counts from zero. -/
def built (entity : PbEntity) : Except PyError (List (Found C)) := do
  let rootPath ← Path.parse (String.ofList (Path.strip entity.id.toList))
  match LucidacDeserializer.deserializeSpecification registry depth entity rootPath none 0 with
  | .error error _ => throw error
  -- A device stands for its carriers.
  | .ok (.device _ carriers) _ => return carriers
  | .ok result _ => return [result]

/-- Add the carriers of an entity that was discovered. -/
def addEntity (entity : PbEntity) : ControllerM C Unit := do
  let carriers ← ofExcept (built registry depth entity)
  carriers.forM addCarrier
  modify fun controller =>
    { controller with rawEntityDict := controller.rawEntityDict.insert entity.id entity }

/-- The descriptions that were kept since there were so many. -/
def newItems (controller : Controller C) (previous : Nat) : List ModuleItem :=
  controller.connectionManager.cacheDescriptions.drop previous

/-- Connect to a device. -/
def connectDevice (attempt : Attempt) : ControllerM C Unit := fun controller =>
  match ConnectionManager.addDevice attempt controller.connectionManager with
  | .ok _ manager => .ok () { controller with connectionManager := manager }
  | .error error manager => .error error { controller with connectionManager := manager }

/-- Add a device and its carriers. -/
def addDevice (attempt : Attempt) : ControllerM C Unit := do
  let controller ← get
  let previous := controller.connectionManager.cacheDescriptions.length
  connectDevice attempt
  let controller ← get
  (ConnectionManager.entities (controller.newItems previous)).forM (addEntity registry depth)

end Controller

end Discovery

end Pybrid
