import Pybrid.Redac.TBlock

/-! Routing a lane through the T-blocks, and tracing it back to its source. -/

namespace Pybrid

/-- The registered T-blocks, with the blocks that stand in for missing ones. -/
structure Routing where
  /-- The T-block of each carrier. -/
  carrierTBlocks : CarrierLoc → Option TBlock
  /-- The backplane T-blocks of each stack, by partition. -/
  bplTBlocks : Int → Int → Option BackplaneTBlock
  /-- The stand-in for carriers without a T-block. -/
  dummy : TBlock
  /-- The stand-in for stacks without a backplane T-block. -/
  bplDummy : BackplaneTBlock

namespace Routing

/-- No block is registered. -/
def empty : Routing where
  carrierTBlocks := fun _ => none
  bplTBlocks := fun _ _ => none
  dummy := .new
  bplDummy := .new

/-- Register the T-block of a carrier. -/
def addTBlock (r : Routing) (loc : CarrierLoc) (tBlock : TBlock) : Routing :=
  { r with carrierTBlocks := Function.update r.carrierTBlocks loc (some tBlock) }

/-- Register a backplane T-block of a stack. -/
def addTBplBlock (r : Routing) (stack index : Int) (tBlock : BackplaneTBlock) : Routing :=
  { r with
    bplTBlocks := Function.update r.bplTBlocks stack
      (Function.update (r.bplTBlocks stack) index (some tBlock)) }

/-- The T-block of a carrier, or the stand-in. -/
def findCarrierTBlock (r : Routing) (loc : CarrierLoc) : TBlock :=
  -- All carriers without a T-block share one stand-in.
  (r.carrierTBlocks loc).getD r.dummy

/-- The backplane T-block of a stack and partition, or the stand-in. -/
def findBplTBlock (r : Routing) (stack index : Int) : BackplaneTBlock :=
  (r.bplTBlocks stack index).getD r.bplDummy

/-- Store a carrier's T-block back into the object it was found in. -/
def storeCarrierTBlock (r : Routing) (loc : CarrierLoc) (tBlock : TBlock) : Routing :=
  -- A block that was not registered is the shared stand-in.
  match r.carrierTBlocks loc with
  | some _ => r.addTBlock loc tBlock
  | none => { r with dummy := tBlock }

/-- Store a backplane T-block back into the object it was found in. -/
def storeBplTBlock (r : Routing) (stack index : Int) (tBlock : BackplaneTBlock) : Routing :=
  match r.bplTBlocks stack index with
  | some _ => r.addTBplBlock stack index tBlock
  | none => { r with bplDummy := tBlock }

/-- What a carrier's T-block listens to. -/
def carrierSource (r : Routing) (loc : CarrierLoc) (sector lane : Int) :
    Except PyError (Option Int) :=
  (r.findCarrierTBlock loc).source sector lane

/-- What a backplane T-block listens to. -/
def bplSource (r : Routing) (stack index sector lane : Int) : Except PyError (Option Int) :=
  (r.findBplTBlock stack index).source sector lane

end Routing

/-- Routing steps raise, and keep what was written before. -/
abbrev RouteM := EStateM PyError Routing

namespace Router

/-- Connect two sectors on a carrier's T-block. -/
def connectCarrier (loc : CarrierLoc) (srcSector dstSector sectorLane : Int) : RouteM Unit :=
  -- The block is changed in place, unless connecting raises.
  fun r =>
    match (r.findCarrierTBlock loc).connect srcSector dstSector sectorLane with
    | .ok tBlock => .ok () (r.storeCarrierTBlock loc tBlock)
    | .error error => .error error r

/-- Connect two sectors on a backplane T-block. -/
def connectBpl (stack index srcSector dstSector sectorLane : Int) : RouteM Unit :=
  fun r =>
    match (r.findBplTBlock stack index).connect srcSector dstSector sectorLane with
    | .ok tBlock => .ok () (r.storeBplTBlock stack index tBlock)
    | .error error => .error error r

/-- Route inside a cluster. -/
def routeCluster (src dst : LaneLoc) : RouteM Unit := do
  -- The caller has made sure of this already.
  if src.carrier ≠ dst.carrier then throw Python.assertionError
  if src.laneId < 8 then
    -- The first eight lanes do not pass a T-block.
    if src ≠ dst then throw ⟨.routing, "First 8 lanes only to same indices routable"⟩
  else
    let outputSectorLane := src.laneId - 8
    let inputSectorLane := dst.laneId - 8
    if outputSectorLane ≠ inputSectorLane then
      throw ⟨.routing, "Connections inside cluster are only allowed between same lane indices!"⟩
    connectCarrier dst.carrier (src.clusterId + 1) (dst.clusterId + 1) inputSectorLane

/-- Route between two clusters of a carrier. -/
def routeCarrier (src dst : LaneLoc) : RouteM Unit := do
  -- Lanes keep their index, and the first eight have no multiplexer.
  if src.laneId ≠ dst.laneId then
    throw ⟨.routing, "Connections between clusters are only allowed between same lane indices!"⟩
  if 0 ≤ src.laneId ∧ src.laneId < 8 then
    throw ⟨.routing,
      "Connections between clusters are only allowed between 8 to 31 lane indices!"⟩
  connectCarrier dst.carrier (src.clusterId + 1) (dst.clusterId + 1) (dst.laneId - 8)

/-- Route between two carriers, over as many stacks as lie between them. -/
def routeStack (src dst : LaneLoc) : RouteM Unit := do
  if src.laneId ≠ dst.laneId then
    throw ⟨.routing, "Connections between carrier are only allowed between same lane indices!"⟩
  if ¬ (8 ≤ src.laneId ∧ src.laneId < 32) then
    throw ⟨.routing,
      "Connections between carrier are only allowed between 8 to 31 lane indices!"⟩
  let offsetLaneId := src.laneId - 8
  let partition := offsetLaneId / 8
  -- Sector 0 is the backplane, the clusters are sectors 1 to 3.
  connectCarrier src.carrier (src.clusterId + 1) 0 offsetLaneId
  connectCarrier dst.carrier 0 (dst.clusterId + 1) offsetLaneId
  let modDstLane := dst.laneId % 8
  if src.stackId ≠ dst.stackId then
    -- Upward a stack is left through sector 7 and entered through sector 8.
    let exitSector : Int := if src.stackId < dst.stackId then 7 else 8
    let entrySector : Int := if src.stackId < dst.stackId then 8 else 7
    connectBpl src.stackId partition src.carrierId exitSector modDstLane
    let dir : Int := if src.stackId < dst.stackId then 1 else -1
    (Python.range (src.stackId + dir) dst.stackId dir).forM fun btwStackIdx =>
      connectBpl btwStackIdx partition entrySector exitSector modDstLane
    connectBpl dst.stackId partition entrySector dst.carrierId modDstLane
  else
    connectBpl src.stackId partition src.carrierId dst.carrierId modDstLane

/-- Route the signal of one lane to another lane. -/
def route (src dst : LaneLoc) : RouteM Unit := do
  -- Only upper bounds are asserted; negative numbers reach the blocks.
  if ¬ (src.carrierId < 7 ∧ dst.carrierId < 7) then throw Python.assertionError
  if ¬ (src.clusterId < 3 ∧ dst.clusterId < 3) then throw Python.assertionError
  if ¬ (dst.laneId < 32 ∧ src.laneId < 32) then throw Python.assertionError
  if src.cluster = dst.cluster then routeCluster src dst
  else if src.carrier = dst.carrier then routeCarrier src dst
  else routeStack src dst

end Router

namespace Tracer

open Routing

/--
Follow the backplane from a stack and sector to the carrier that feeds it.

The outer `none` says that the fuel was not enough.
-/
def traceBackplane (r : Routing) (tblockLane : Int) :
    Nat → Int → Int → Option (Except PyError (Option (Int × Int)))
  | 0, _, _ => none
  | fuel + 1, currentStack, sector =>
    match r.bplSource currentStack (tblockLane / 8) sector (tblockLane % 8) with
    | .error error => some (.error error)
    | .ok none => some (.ok none)
    | .ok (some prevCarrierId) =>
      -- Sector 8 leads to the stack below, where the signal left through sector 7.
      if prevCarrierId = 8 then traceBackplane r tblockLane fuel (currentStack - 1) 7
      else if prevCarrierId = 7 then traceBackplane r tblockLane fuel (currentStack + 1) 8
      else some (.ok (some (currentStack, prevCarrierId)))

/-- Follow a lane behind its T-block, with the locations visited on the way. -/
def traceFrom (r : Routing) :
    Nat → List LaneLoc → LaneLoc → Option (Except PyError (Option LaneLoc))
  | 0, _, _ => none
  | fuel + 1, visited, loc =>
    -- The first eight lanes bypass the T-blocks, and a location seen before is a loop.
    if loc.laneId < 8 then some (.ok (some loc))
    else if loc ∈ visited then some (.ok none)
    else
      let tblockLane := loc.laneId - 8
      match r.carrierSource loc.carrier loc.clusterId tblockLane with
      | .error error => some (.error error)
      | .ok none => some (.ok none)
      | .ok (some source) =>
        -- A cluster on the same carrier ends the search, sector 0 leads to the backplane.
        if ¬ (0 ≤ source ∧ source < 4) then some (.ok none)
        else if source ≠ 0 then
          some (.ok (some ⟨loc.stackId, loc.carrierId, source - 1, loc.laneId⟩))
        else
          match traceBackplane r tblockLane (fuel + 1) loc.stackId loc.carrierId with
          | none => none
          | some (.error error) => some (.error error)
          | some (.ok none) => some (.ok none)
          | some (.ok (some (currentStack, prevCarrierId))) =>
            if 0 ≤ prevCarrierId ∧ prevCarrierId ≤ 6 then
              -- Sector 0 again, because the signal came over the backplane.
              traceFrom r fuel (loc :: visited) ⟨currentStack, prevCarrierId, 0, loc.laneId⟩
            else some (.error ⟨.routing, "Connections between stacks not implemented yet!"⟩)

/-- The coefficient lane that feeds a lane, if the fuel is enough to find out. -/
def findCoef (r : Routing) (fuel : Nat) (loc : LaneLoc) :
    Option (Except PyError (Option LaneLoc)) :=
  if loc.laneId < 8 then some (.ok (some loc))
  -- Only here the cluster is bumped, because sector 0 is the backplane.
  else traceFrom r fuel [] ⟨loc.stackId, loc.carrierId, loc.clusterId + 1, loc.laneId⟩

end Tracer

end Pybrid
