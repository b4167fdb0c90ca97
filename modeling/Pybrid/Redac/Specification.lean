import Mathlib.Data.List.Basic
import Pybrid.Library.Raising
import Pybrid.Redac.Entities
import Pybrid.Redac.Wire

/-! The specification of a computer's entities: what there is, without how it is configured. -/

namespace Pybrid

/-- Tells carrier boards, clusters and the kinds of function blocks apart. -/
inductive EntityClass where
  | unknown
  | carrier
  | cluster
  | mblock
  | ublock
  | cblock
  | iblock
  | shblock
  | frontpanel
  | ctrlblock
  | tblock
  | backPanel
  | tBlockBpl
  | device
  | other
  deriving DecidableEq, Repr

namespace EntityClass

/-- The number of a class on the wire. -/
def value : EntityClass → Nat
  | unknown => 0
  | carrier => 1
  | cluster => 2
  | mblock => 3
  | ublock => 4
  | cblock => 5
  | iblock => 6
  | shblock => 7
  | frontpanel => 8
  | ctrlblock => 9
  | tblock => 10
  | backPanel => 11
  | tBlockBpl => 12
  | device => 30
  | other => 31

/-- All classes. -/
def all : List EntityClass :=
  [unknown, carrier, cluster, mblock, ublock, cblock, iblock, shblock, frontpanel, ctrlblock, tblock,
    backPanel, tBlockBpl, device, other]

/-- The class with this number. -/
def ofValue (value : Nat) : Except PyError EntityClass :=
  match all.find? fun class_ => class_.value = value with
  | some class_ => .ok class_
  | none => .error ⟨.value, toString value ++ " is not a valid EntityClass"⟩

/-- A class is found under its own number. -/
theorem ofValue_value (class_ : EntityClass) : ofValue class_.value = .ok class_ := by
  cases class_ <;> rfl

end EntityClass

/-- A semantic version with three parts. -/
structure Version where
  major : Nat
  minor : Nat
  micro : Nat
  deriving DecidableEq, Repr

/-- What kind of module an entity is; later fields say more precisely which one. -/
structure EntityType where
  class_ : EntityClass
  type_ : Option Int
  version : Option Version
  variant : Option Int
  deriving DecidableEq, Repr

/-- An entity on the wire, with everything below it. -/
structure PbEntity where
  id : String
  class_ : Nat
  type : Nat
  variant : Nat
  version : Version
  /-- The stack and the carrier, if a location is set. -/
  locationV0 : Option (Nat × Nat)
  children : List PbEntity

/-- A location: the stack, then the carrier, then the cluster. -/
abbrev EntityLoc := List Int

/-- A function block, whose Python class is one of `C`. -/
structure BlockTree (C : Type) where
  path : Path
  cls : C
  entityType : Option EntityType
  location : Option EntityLoc
  deriving DecidableEq, Repr

/-- A cluster with its blocks. -/
structure ClusterTree (C : Type) where
  path : Path
  location : Option EntityLoc
  entityType : Option EntityType
  m0block : Option (BlockTree C)
  m1block : Option (BlockTree C)
  ublock : BlockTree C
  cblock : BlockTree C
  iblock : BlockTree C
  shblock : Option (BlockTree C)
  deriving DecidableEq, Repr

/-- A carrier board with its clusters and its own blocks. -/
structure CarrierTree (K C : Type) where
  path : Path
  location : Option EntityLoc
  entityType : Option EntityType
  clusters : List K
  tblock : Option (BlockTree C)
  st0block : Option (BlockTree C)
  st1block : Option (BlockTree C)
  st2block : Option (BlockTree C)

/-- What a handler builds of an entity; a numbered child of a carrier is built by its own class. -/
inductive Built (C : Type) where
  | block (block : BlockTree C)
  | cluster (cluster : ClusterTree C)
  | carrier (carrier : CarrierTree (Built C) C)
  | device (path : Path) (carriers : List (Built C))

namespace EntityType

/-- The type with one more field cleared, unless only the class is left. -/
def fallbackType (type : EntityType) : Option EntityType :=
  if type.variant.isSome then some { type with variant := none }
  else if type.version.isSome then some { type with version := none }
  else if type.type_.isSome then some { type with type_ := none }
  else none

/-- Look a type up, and then its fallbacks. -/
def lookupDecay {C : Type} (registry : List (EntityType × C)) : Nat → EntityType → Option C
  | 0, _ => none
  | steps + 1, type =>
    (registry.lookup type).or (type.fallbackType.bind (lookupDecay registry steps))

/-- The class registered for a type, or for a more generic one. -/
def lookup {C : Type} (registry : List (EntityType × C)) (type : EntityType) : Except PyError C :=
  -- Three fields can be cleared, so that there are four types to try.
  match lookupDecay registry 4 type with
  | some cls => .ok cls
  | none =>
    .error ⟨.value, "Neither entity type " ++ toString (repr type) ++
      " nor any fallbacks are registered."⟩

/-- The first type that is registered for a class. -/
def reverseLookup {C : Type} [DecidableEq C] (registry : List (EntityType × C)) (cls : C) :
    Except PyError EntityType :=
  match registry.find? fun entry => entry.2 = cls with
  | some entry => .ok entry.1
  | none => .error ⟨.value, "No EntityType registered for the class"⟩

/-- The type of an entity on the wire. -/
def popFromDict (entity : PbEntity) : Except PyError EntityType := do
  let class_ ← EntityClass.ofValue entity.class_
  return ⟨class_, some entity.type, some entity.version, some entity.variant⟩

end EntityType

namespace Path

/-- The text without slashes at either end. -/
def strip (text : List Char) : List Char :=
  ((text.dropWhile (· = '/')).reverse.dropWhile (· = '/')).reverse

/-- Parse a path; a fourth part has to be a number, and there is no fifth one. -/
def parse (text : String) : Except PyError Path :=
  if strip text.toList = [] then .ok []
  else
    let parts := ((strip text.toList).splitOn '/').map String.ofList
    if 4 < parts.length then .error ⟨.index, "tuple index out of range"⟩
    else
      match parts[3]? with
      | none => .ok parts
      | some function =>
        if function.toInt?.isSome then .ok parts
        else .error ⟨.value, "invalid literal for int() with base 10: " ++ function⟩

/-- The last part of a path. -/
def id (path : Path) : Except PyError String :=
  match path.getLast? with
  | some last => .ok last
  | none => .error ⟨.index, "tuple index out of range"⟩

end Path

/-- A number as an unsigned field of 32 bits; any other number raises. -/
def toUint32 (value : Int) : Except PyError Nat :=
  if 0 ≤ value ∧ value < 2 ^ 32 then .ok value.toNat
  else .error ⟨.value, "Value out of range: " ++ toString value⟩

namespace RedacSerializer

variable {C : Type}

/-- The version on the wire, which is zero if there is none. -/
def makeVersion (version : Option Version) : Except PyError Version :=
  match version with
  | none => .ok ⟨0, 0, 0⟩
  | some version => do
    let major ← toUint32 version.major
    let minor ← toUint32 version.minor
    let patch ← toUint32 version.micro
    return ⟨major, minor, patch⟩

/-- The identifier of an entity on the wire. -/
def entityId (path : Path) : Except PyError String := do
  let last ← Path.id path
  return "/" ++ last

/-- An entity on the wire, with its type but with nothing below it. -/
def makeEntity (path : Path) (type : EntityType) : Except PyError PbEntity := do
  let id ← entityId path
  let version ← makeVersion type.version
  let number ← toUint32 (type.type_.getD 0)
  let variant ← toUint32 (type.variant.getD 0)
  return ⟨id, type.class_.value, number, variant, version, none, []⟩

/-- Serialize a function block. -/
def serializeBlock [DecidableEq C] (registry : List (EntityType × C)) (block : BlockTree C) :
    Except PyError PbEntity := do
  -- A block without a type of its own has the one its class is registered for.
  let type ← match block.entityType with
    | some type => pure type
    | none => EntityType.reverseLookup registry block.cls
  makeEntity block.path type

/-- The blocks of a cluster that are its children. -/
def clusterChildren (cluster : ClusterTree C) : List (BlockTree C) :=
  cluster.m0block.toList ++ cluster.m1block.toList ++ [cluster.ublock, cluster.cblock, cluster.iblock]

/-- Serialize a cluster. -/
def serializeCluster [DecidableEq C] (registry : List (EntityType × C)) (cluster : ClusterTree C) :
    Except PyError PbEntity := do
  let entity ← makeEntity cluster.path (cluster.entityType.getD ⟨.cluster, none, none, none⟩)
  let children ← (clusterChildren cluster).mapM (serializeBlock registry)
  return { entity with children }

/-- The stack and the carrier of a location. -/
def serializeLocation (location : EntityLoc) : Except PyError (Nat × Nat) :=
  match location with
  | stack :: carrier :: _ => do
    let stack ← toUint32 stack
    let carrier ← toUint32 carrier
    return (stack, carrier)
  | _ => .error ⟨.index, "list index out of range"⟩

/-- Serialize a carrier; this one has no front plane. -/
def serializeCarrier [DecidableEq C] (registry : List (EntityType × C))
    (carrier : CarrierTree (ClusterTree C) C) : Except PyError PbEntity := do
  let entity ← makeEntity carrier.path (carrier.entityType.getD ⟨.carrier, none, none, none⟩)
  let locationV0 ← carrier.location.mapM serializeLocation
  let clusters ← carrier.clusters.mapM (serializeCluster registry)
  let blocks ← (carrier.tblock.toList ++ carrier.st0block.toList ++ carrier.st1block.toList ++
    carrier.st2block.toList).mapM (serializeBlock registry)
  return { entity with locationV0, children := clusters ++ blocks }

end RedacSerializer

namespace RedacDeserializer

variable {C : Type} (registry : List (EntityType × C))

/-- Build a function block of the class its type is registered for. -/
def specFunctionBlock (entity : PbEntity) (path : Path) (location : Option EntityLoc) :
    Except PyError (BlockTree C) := do
  let type ← EntityType.popFromDict entity
  let cls ← EntityType.lookup registry type
  return ⟨path, cls, some type, location⟩

/-- The keyword under which a cluster takes a block. -/
def blockKey (id : String) : String :=
  String.ofList (id.toList.map Char.toLower ++ ['b', 'l', 'o', 'c', 'k'])

/-- Store a value under a key, in place of an earlier one. -/
def setKey {β : Type} (entries : List (String × β)) (key : String) (value : β) :
    List (String × β) :=
  if key ∈ entries.map Prod.fst then
    entries.map fun entry => if entry.1 = key then (key, value) else entry
  else entries ++ [(key, value)]

/-- Collect one more child of a cluster. -/
def addBlock (path : Path) (location : Option EntityLoc) (blocks : List (String × BlockTree C))
    (child : PbEntity) : Except PyError (List (String × BlockTree C)) := do
  let below ← Path.parse child.id
  let id ← Path.id (path ++ below)
  let block ← specFunctionBlock registry child (path ++ below) location
  return setKey blocks (blockKey id) block

/-- A block that a cluster cannot do without. -/
def requireBlock (blocks : List (String × BlockTree C)) (key : String) :
    Except PyError (BlockTree C) :=
  match blocks.lookup key with
  | some block => .ok block
  | none => .error ⟨.type, "missing a required keyword-only argument: " ++ key⟩

/-- The keywords of a cluster's blocks. -/
def clusterKeys : List String := ["m0block", "m1block", "ublock", "cblock", "iblock", "shblock"]

/-- Build a cluster of the blocks below it. -/
def specCluster (entity : PbEntity) (path : Path) (location : Option EntityLoc) :
    Except PyError (ClusterTree C) := do
  let type ← EntityType.popFromDict entity
  if type.class_ ≠ .cluster then throw Python.assertionError
  let blocks ← entity.children.foldlM (addBlock registry path location) []
  if blocks.any fun entry => entry.1 ∉ clusterKeys then
    throw ⟨.type, "got an unexpected keyword argument"⟩
  let ublock ← requireBlock blocks "ublock"
  let cblock ← requireBlock blocks "cblock"
  let iblock ← requireBlock blocks "iblock"
  return {
    path, location, entityType := some type
    -- Optional blocks are absent when the tree has none.
    m0block := blocks.lookup "m0block", m1block := blocks.lookup "m1block"
    ublock, cblock, iblock, shblock := blocks.lookup "shblock" }

/-- The decimal digits in order. -/
def digits : List Char := ['0', '1', '2', '3', '4', '5', '6', '7', '8', '9']

/-- Whether a name counts as that of a cluster: it is a part of the text of all digits. -/
def isClusterId (id : String) : Bool := decide (id.toList <:+: digits)

/-- Collect one more child of a carrier. -/
def addChild (dispatch : PbEntity → Path → Option EntityLoc → Except PyError (Built C))
    (carrier : CarrierTree (Built C) C) (child : PbEntity) :
    Except PyError (CarrierTree (Built C) C) := do
  let below ← Path.parse child.id
  let path := carrier.path ++ below
  let id ← Path.id path
  let stack := carrier.location.map (·.take 1)
  if id = "" then return carrier
  else if id = "T" then
    let block ← specFunctionBlock registry child path carrier.location
    return { carrier with tblock := some block }
  else if id = "ST0" then
    let block ← specFunctionBlock registry child path stack
    return { carrier with st0block := some block }
  else if id = "ST1" then
    let block ← specFunctionBlock registry child path stack
    return { carrier with st1block := some block }
  else if id = "ST2" then
    let block ← specFunctionBlock registry child path stack
    return { carrier with st2block := some block }
  -- A front panel is unknown to a REDAC and passed over, like any other child.
  else if id = "FP" then return carrier
  else if isClusterId id then
    let cluster ← dispatch child path (carrier.location.map (· ++ [(id.toNat?.getD 0 : Int)]))
    return { carrier with clusters := carrier.clusters ++ [cluster] }
  else return carrier

/-- Build a carrier of its children. -/
def specCarrier (dispatch : PbEntity → Path → Option EntityLoc → Except PyError (Built C))
    (entity : PbEntity) (path : Path) (location : Option EntityLoc) :
    Except PyError (CarrierTree (Built C) C) := do
  let type ← EntityType.popFromDict entity
  if type.class_ ≠ .carrier then throw Python.assertionError
  -- A location on the wire replaces the one that was handed down.
  let location := match entity.locationV0 with
    | some (stack, carrier) => some [(stack : Int), (carrier : Int)]
    | none => location
  entity.children.foldlM (addChild registry dispatch)
    ⟨path, location, some type, [], none, none, none, none⟩

/-- Build a device of the carriers below it. -/
def specDevice (dispatch : PbEntity → Path → Option EntityLoc → Except PyError (Built C))
    (entity : PbEntity) (path : Path) (location : Option EntityLoc) : Except PyError (Built C) := do
  if location ≠ none then throw Python.assertionError
  let carriers ← entity.children.mapM fun child => do
    let below ← Path.parse child.id
    dispatch child below none
  return .device path carriers

/-- Build an entity by the handler of its class; calls nest only so deep. -/
def deserializeSpecification : Nat → PbEntity → Path → Option EntityLoc → Except PyError (Built C)
  | 0, _, _, _ => .error ⟨.exception, "maximum recursion depth exceeded"⟩
  | depth + 1, entity, path, location => do
    match ← EntityClass.ofValue entity.class_ with
    | .device => specDevice (deserializeSpecification depth) entity path location
    | .carrier =>
      (specCarrier registry (deserializeSpecification depth) entity path location).map .carrier
    | .cluster => (specCluster registry entity path location).map .cluster
    | _ => (specFunctionBlock registry entity path location).map .block

end RedacDeserializer

end Pybrid
