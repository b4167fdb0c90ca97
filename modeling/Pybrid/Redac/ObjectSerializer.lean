import Pybrid.Library.Simulation
import Pybrid.Redac.ComputerObjects
import Pybrid.Redac.Reset

/-! The dependency information of objects is that of the values they hold. -/

namespace Pybrid

/-- The summation block as an object. -/
def IBlock.object (i : IBlock) : IBlockObject :=
  ⟨i.outputs.map fun summands => summands.map Nat.castEmbedding, i.upscaling⟩

/-- The cluster as an object. -/
def Cluster.object (cluster : Cluster) : ClusterObject :=
  ⟨cluster.location, cluster.ublock.config, cluster.cblock.config, cluster.iblock.config.object⟩

/-- The T-block as an object; there is one for every path. -/
def LocatedNode.object {β location : Type} (ref : Path → ℕ) (node : LocatedNode β location) :
    BlockObject location :=
  ⟨ref node.path, node.location⟩

/-- The carrier as an object. -/
def Carrier.object (ref : Path → ℕ) (carrier : Carrier) : CarrierObject where
  path := carrier.path
  location := carrier.location
  clusters := carrier.clusters.map Cluster.object
  tblock := carrier.tblock.map (LocatedNode.object ref)
  st0block := carrier.st0block.map (LocatedNode.object ref)
  st1block := carrier.st1block.map (LocatedNode.object ref)
  st2block := carrier.st2block.map (LocatedNode.object ref)

/-- The computer as an object. -/
def Redac.object (ref : Path → ℕ) (r : Redac) : Computer := ⟨r.carriers.map (Carrier.object ref)⟩

/-- The T-blocks of the carrier hold these values. -/
structure Memory.Holds (m : Memory) (ref : Path → ℕ) (carrier : Carrier) : Prop where
  tblock : ∀ node ∈ carrier.tblock, m.carriers.object (some (ref node.path)) = node.config
  st0block : ∀ node ∈ carrier.st0block, m.planes.object (some (ref node.path)) = node.config
  st1block : ∀ node ∈ carrier.st1block, m.planes.object (some (ref node.path)) = node.config
  st2block : ∀ node ∈ carrier.st2block, m.planes.object (some (ref node.path)) = node.config

namespace Memory

open Simulation

/-- The routers find these blocks, and the blocks are those of the start. -/
def Finds (start : Memory) (r : Routing) (m : Memory) : Prop :=
  m.view = r ∧ m.carriers.object = start.carriers.object ∧ m.planes.object = start.planes.object

/-- Registering a reference makes the routers find the block it refers to. -/
theorem view_register_carrier (m : Memory) (loc : CarrierLoc) (ref : ℕ) :
    view { m with carriers := m.carriers.register loc ref } =
      m.view.addTBlock loc (m.carriers.object (some ref)) := by
  simp only [view, Routing.addTBlock, Shared.Store.register, Routing.mk.injEq, and_true]
  funext other
  -- Only the location that is registered has another block.
  by_cases same : other = loc <;> simp [same]

/-- The same for a block of a backplane. -/
theorem view_register_plane (m : Memory) (stack index : Int) (ref : ℕ) :
    view { m with planes := m.planes.register (stack, index) ref } =
      m.view.addTBplBlock stack index (m.planes.object (some ref)) := by
  simp only [view, Routing.addTBplBlock, Shared.Store.register, Routing.mk.injEq, and_true, true_and]
  funext stack' index'
  -- The table of the objects is one, that of the values has a table for each stack.
  by_cases same : stack' = stack <;> by_cases slot : index' = index <;>
    simp [same, slot]

/-- A T-block is registered by its reference, and found with the value it holds. -/
theorem addTBlock_simulates {start : Memory} {ref : Path → ℕ}
    {block : Option (LocatedNode TBlock CarrierLoc)}
    (holds : ∀ node ∈ block, start.carriers.object (some (ref node.path)) = node.config)
    {r : Routing} {m : Memory} (finds : start.Finds r m) :
    Simulates (fun after _ => start.Finds after)
      (match block with
        | none => pure r
        | some node => (requireLoc node.location).map fun loc => r.addTBlock loc node.config)
      ((block.map (LocatedNode.object ref)).toList.forM addTBlock m) := by
  obtain ⟨rfl, carriers, planes⟩ := finds
  cases block with
  | none => exact .returns ⟨rfl, carriers, planes⟩
  | some node =>
    have value := holds node rfl
    -- A block without a location raises in both models.
    cases located : node.location with
    | none =>
      simp only [Option.map_some, Option.toList_some, LocatedNode.object, located, requireLoc]
      exact .raises
    | some loc =>
      simp only [Option.map_some, Option.toList_some, LocatedNode.object, located, requireLoc]
      refine .returns ⟨?_, carriers, planes⟩
      rw [view_register_carrier, carriers, value]

/-- The same for a block of a backplane. -/
theorem addBackplane_simulates {start : Memory} {ref : Path → ℕ} {index : Int}
    {block : Option (LocatedNode BackplaneTBlock Int)}
    (holds : ∀ node ∈ block, start.planes.object (some (ref node.path)) = node.config)
    {r : Routing} {m : Memory} (finds : start.Finds r m) :
    Simulates (fun after _ => start.Finds after) (r.addBackplane index block)
      ((block.map (LocatedNode.object ref)).toList.forM (addTBplBlock index) m) := by
  obtain ⟨rfl, carriers, planes⟩ := finds
  cases block with
  | none => exact .returns ⟨rfl, carriers, planes⟩
  | some node =>
    have value := holds node rfl
    -- The same check on the planes.
    cases located : node.location with
    | none =>
      simp only [Option.map_some, Option.toList_some, LocatedNode.object, located, requireLoc, Routing.addBackplane]
      exact .raises
    | some stack =>
      simp only [Option.map_some, Option.toList_some, LocatedNode.object, located, requireLoc, Routing.addBackplane]
      refine .returns ⟨?_, carriers, planes⟩
      rw [view_register_plane, planes, value]

/-- A carrier is registered as an object like as a value. -/
theorem addCarrier_simulates {start : Memory} {ref : Path → ℕ} {carrier : Carrier}
    (holds : start.Holds ref carrier) {r : Routing} {m : Memory} (finds : start.Finds r m) :
    Simulates (fun after _ => start.Finds after) (r.addCarrier carrier)
      (addCarrier (carrier.object ref) m) := by
  -- The carrier's own T-block comes first, whether it has one or not.
  have split : r.addCarrier carrier = (match carrier.tblock with
      | none => pure r
      | some node => (requireLoc node.location).map fun loc => r.addTBlock loc node.config) >>=
      fun r => r.addBackplane 0 carrier.st0block >>=
      fun r => r.addBackplane 1 carrier.st1block >>= fun r => r.addBackplane 2 carrier.st2block := by
    unfold Routing.addCarrier
    cases carrier.tblock <;> rfl
  rw [split]
  refine Simulates.bind (addTBlock_simulates holds.tblock finds) fun _ _ _ finds => ?_
  refine (addBackplane_simulates holds.st0block finds).bind fun _ _ _ finds => ?_
  refine (addBackplane_simulates holds.st1block finds).bind fun _ _ _ finds => ?_
  exact addBackplane_simulates holds.st2block finds

end Memory

namespace Redac

open Simulation

/-- The carriers are sorted as objects like before. -/
theorem sortedCarriers_object (ref : Path → ℕ) (r : Redac) :
    (r.object ref).sortedCarriers =
      r.sortedCarriers.map (List.map fun located => (located.1, located.2.object ref)) := by
  have located : ∀ carrier : Carrier, ((requireLoc (carrier.object ref).location).map fun loc =>
      (loc, carrier.object ref)) = ((requireLoc carrier.location).map fun loc =>
        (loc, carrier)).map fun located => (located.1, located.2.object ref) := by
    intro carrier
    rw [Raising.except_map_map]
    rfl
  simp only [Computer.sortedCarriers, sortedCarriers, Redac.object, List.mapM_map, Function.comp_def,
    located, Raising.mapM_change]
  cases r.carriers.mapM fun carrier =>
      (requireLoc carrier.location).map fun loc => (loc, carrier) with
  | error error => rfl
  | ok found =>
    -- Only locations are compared, and these stay.
    refine congrArg Except.ok (List.map_mergeSort ?_).symm
    exact fun _ _ _ _ => rfl

/-- A lane is summed as an object if it is summed as a value. -/
theorem sums_object (i : IBlock) (lane : ℕ) :
    i.object.sums lane = i.outputs.toList.any fun summands => lane ∈ summands := by
  simp [IBlockObject.sums, IBlock.object]

/-- The tracer of the objects finds what that of the values knows. -/
theorem registerCarriers_simulates {ref : Path → ℕ} {r : Redac} {m : Memory}
    (holds : ∀ carrier ∈ r.carriers, m.Holds ref carrier) :
    Simulates (fun found sorted after => m.Finds found.2 after ∧
        sorted = found.1.map fun located => (located.1, located.2.object ref))
      (do
        let sorted ← r.sortedCarriers
        return (sorted, ← tracer m.view sorted))
      ((r.object ref).registerCarriers m) := by
  unfold Computer.registerCarriers
  rw [sortedCarriers_object]
  cases sorts : r.sortedCarriers with
  | error error => exact .raises
  | ok sorted =>
    have listed : ∀ located ∈ sorted, located.2 ∈ r.carriers := by
      intro located member
      obtain ⟨found, all, same⟩ := Raising.except_bind_eq_ok.mp sorts
      obtain rfl := Except.ok.inj same
      exact mem_of_located all located ((List.mergeSort_perm _ _).mem_iff.mp member)
    have moved : (sorted.map fun located => (located.1, located.2.object ref)).forM
        (fun located => Memory.addCarrier located.2) =
        sorted.forM fun located => Memory.addCarrier (located.2.object ref) := List.forM_map
    -- The loop on the objects does the work of the fold over the values.
    have loop : Simulates (fun after _ => m.Finds after) (tracer m.view sorted)
        ((sorted.map fun located => (located.1, located.2.object ref)).forM
          (fun located => Memory.addCarrier located.2) m) := by
      rw [moved]
      exact forM_simulates (fun located member _ _ finds =>
        Memory.addCarrier_simulates (holds located.2 (listed located member)) finds) ⟨rfl, rfl, rfl⟩
    exact loop.bind fun after _ _ finds => .returns ⟨finds, rfl⟩

/-- A cluster is found as an object where it is found as a value. -/
theorem locate_object (ref : Path → ℕ) (r : Redac) (loc : ClusterLoc) :
    ((r.object ref).locate loc).map (r.object ref).cluster? =
      (r.findCluster loc).map fun cluster => some cluster.object := by
  have located : ∀ carrier : Carrier, (carrier.object ref).location = carrier.location := fun _ => rfl
  simp only [Computer.locate, findCluster, List.find?_eq_bind_findIdx?_getElem?, Redac.object,
    List.findIdx?_map, Function.comp_def, located]
  cases found : r.carriers.findIdx? fun carrier =>
      decide (carrier.location = some (⟨loc.stackId, loc.carrierId⟩ : CarrierLoc)) with
  | none => rfl
  | some place =>
    obtain ⟨bound, -⟩ := List.findIdx?_eq_some_iff_getElem.mp found
    have present : r.carriers[place]? = some r.carriers[place] := List.getElem?_eq_getElem bound
    -- The carrier has as many clusters as an object.
    have count : ((((r.carriers.map (Carrier.object ref))[place]?).map fun carrier =>
        carrier.clusters.length).getD 0) = r.carriers[place].clusters.length := by
      simp [present, Carrier.object]
    simp only [present, Option.bind_some]
    rw [count, Raising.except_map_map, Raising.except_map_map]
    congr 1
    funext number
    simp [Computer.cluster?, present, Carrier.object]

/-- The same signal arrives at a lane. -/
theorem sinkSignal_object (ref : Path → ℕ) (r : Redac) (tracer : Routing) (fuel : ℕ)
    (cluster : Cluster) (lane : Fin 32) :
    (r.object ref).sinkSignal tracer fuel cluster.object lane =
      r.sinkSignal tracer fuel cluster lane := by
  simp only [Computer.sinkSignal, sinkSignal, Cluster.object, sums_object]
  refine bind_congr fun loc => bind_congr fun found => ?_
  -- Both search the same multiplexers.
  cases found with
  | none => rfl
  | some source =>
    simp only
    split
    · rfl
    · -- Of the cluster that the signal comes from only the selection is looked at.
      have same := locate_object ref r source.cluster
      -- A cluster that is not found raises the same error in both.
      cases value : r.findCluster source.cluster with
      | error error =>
        cases place : (r.object ref).locate source.cluster with
        | error raised =>
          rw [value, place] at same
          obtain rfl := Except.error.inj same
          rfl
        | ok place =>
          rw [value, place] at same
          cases same
      | ok cluster =>
        cases place : (r.object ref).locate source.cluster with
        | error raised =>
          rw [value, place] at same
          cases same
        | ok slot =>
          rw [value, place] at same
          have there : (r.object ref).cluster? slot = some cluster.object := Except.ok.inj same
          simp only [returned, pure_bind, there, Option.bind_some, Cluster.object]
          rfl

/-- The same signals arrive at all lanes. -/
theorem signals_object (ref : Path → ℕ) (r : Redac) (tracer : Routing) (fuel : ℕ) :
    (r.object ref).signals tracer fuel = r.signals tracer fuel := by
  have lanes : (r.object ref).sinks = (r.carriers.flatMap fun carrier =>
      carrier.clusters.flatMap fun cluster => (List.finRange 32).map fun lane =>
        (cluster, lane)).map fun place => (place.1.object, place.2) := by
    simp [Computer.sinks, Redac.object, Carrier.object, List.flatMap_map, List.map_flatMap,
      Function.comp_def]
  simp only [Computer.signals, signals, lanes, List.mapM_map, Function.comp_def, sinkSignal_object]

/--
The dependency information of the objects is that of the values they hold.

Whatever else is registered in the shared tables is registered for both.
-/
theorem serializeDependencyInfo_object (ref : Path → ℕ) (r : Redac) (m : Memory)
    (holds : ∀ carrier ∈ r.carriers, m.Holds ref carrier) (fuel : ℕ) :
    ((r.object ref).serializeDependencyInfo fuel m).1 =
      (r.serializeDependencyInfo m.view fuel).run := by
  have registers := registerCarriers_simulates holds
  unfold Computer.serializeDependencyInfo serializeDependencyInfo
  generalize (r.object ref).registerCarriers m = registered at registers ⊢
  cases sorts : r.sortedCarriers with
  | error error =>
    rw [sorts] at registers
    change Simulates _ (.error error) _ at registers
    cases registers
    rfl
  | ok sorted =>
    rw [sorts] at registers
    change Simulates _ (tracer m.view sorted >>= fun known => pure (sorted, known)) _ at registers
    cases traced : tracer m.view sorted with
    | error error =>
      rw [traced] at registers
      change Simulates _ (.error error) _ at registers
      cases registers
      simp only [returned, pure_bind, traced]
      rfl
    | ok known =>
      rw [traced] at registers
      change Simulates _ (.ok (sorted, known)) _ at registers
      -- The objects are searched with the same T-blocks, and have the same signals.
      cases registers with
      | returns here =>
        obtain ⟨⟨found, -, -⟩, rfl⟩ := here
        have carriers : (r.object ref).carriers = r.carriers.map (Carrier.object ref) := rfl
        simp only [returned, pure_bind, traced, found, Computer.dependencyInfo, signals_object,
          Computer.numberCarriers, numberCarriers, carriers, List.foldl_map, List.map_map,
          List.mapM_map, Function.comp_def]
        rfl

end Redac

end Pybrid
