import Pybrid.Redac.Registration
import Pybrid.Redac.TraceAfterRoute

/-! What a route of a computer leaves behind, in its clusters and in the tables. -/

namespace Pybrid

namespace Computer

/-- A computer whose carriers, clusters and blocks are where they belong. -/
structure Assembled (computer : Computer) : Prop where
  located : ∀ carrier ∈ computer.carriers, ∃ loc, carrier.location = some loc
  distinct : (computer.carriers.map (·.location)).Nodup
  /-- The clusters of a carrier are numbered from 0 to 2. -/
  clusters : ∀ carrier ∈ computer.carriers, ∀ loc, carrier.location = some loc →
    carrier.clusters.map (·.location) =
      [some ⟨loc.stackId, loc.carrierId, 0⟩, some ⟨loc.stackId, loc.carrierId, 1⟩,
        some ⟨loc.stackId, loc.carrierId, 2⟩]
  tblock : ∀ carrier ∈ computer.carriers, ∃ block,
    carrier.tblock = some block ∧ block.location = carrier.location
  planes : ∀ carrier ∈ computer.carriers, ∀ loc, carrier.location = some loc →
    ∀ plane ∈ carrier.planes, plane.2.location = some loc.stackId
  /-- Every stack between used ones has its three backplane blocks, all on one carrier. -/
  stacked : ∀ low ∈ computer.carriers, ∀ high ∈ computer.carriers, ∀ first last stack,
    low.location = some first → high.location = some last →
    first.stackId ≤ stack → stack ≤ last.stackId →
    ∃ carrier ∈ computer.carriers, (∃ loc, carrier.location = some loc ∧ loc.stackId = stack) ∧
      carrier.st0block.isSome ∧ carrier.st1block.isSome ∧ carrier.st2block.isSome
  together : ∀ carrier ∈ computer.carriers, ∀ other ∈ computer.carriers,
    ∀ plane ∈ carrier.planes, ∀ second ∈ other.planes,
    plane.2.location = second.2.location → carrier = other
  /-- Blocks at different places are different objects. -/
  objects : ∀ loc other ref, (.carrier loc, ref) ∈ computer.entries →
    (.carrier other, ref) ∈ computer.entries → loc = other
  planeObjects : ∀ stack index stack' index' ref, (.plane stack index, ref) ∈ computer.entries →
    (.plane stack' index', ref) ∈ computer.entries → stack = stack' ∧ index = index'

/-- A backplane block is registered with its stack and partition. -/
theorem mem_entries_plane {carrier : CarrierObject} {stack index : Int} {ref : ℕ} :
    (.plane stack index, ref) ∈ carrier.entries ↔
      (index, (⟨ref, some stack⟩ : BlockObject Int)) ∈ carrier.planes := by
  simp only [CarrierObject.entries, List.mem_append, List.mem_filterMap, Option.map_eq_some_iff]
  -- A plane is entered under its stack, which its location gives.
  constructor
  · rintro (⟨_, _, _, _, impossible⟩ | ⟨⟨place, number, location⟩, member, found, rfl, same⟩)
    · cases impossible
    · cases same
      exact member
  · exact fun member => .inr ⟨_, member, stack, rfl, rfl⟩

/-- A T-block is registered with its location. -/
theorem mem_entries_carrier {carrier : CarrierObject} {loc : CarrierLoc} {ref : ℕ} :
    (.carrier loc, ref) ∈ carrier.entries ↔ carrier.tblock = some ⟨ref, some loc⟩ := by
  simp only [CarrierObject.entries, List.mem_append, List.mem_filterMap, Option.map_eq_some_iff,
    Option.mem_toList]
  -- The carrier's own T-block is entered under the carrier's location.
  constructor
  · rintro (⟨⟨number, location⟩, own, found, rfl, same⟩ | ⟨_, _, _, _, impossible⟩)
    · cases same
      exact own
    · cases impossible
  · exact fun own => .inl ⟨_, own, loc, rfl, rfl⟩

/-- A partition of a carrier has one block. -/
theorem planes_index {carrier : CarrierObject} {index : Int} {block other : BlockObject Int}
    (here : (index, block) ∈ carrier.planes) (there : (index, other) ∈ carrier.planes) :
    block = other := by
  simp only [CarrierObject.planes, List.mem_append, List.mem_map, Option.mem_toList,
    Prod.mk.injEq] at here there
  -- The three planes have the numbers 0, 1 and 2.
  rcases here with (⟨_, own, rfl, rfl⟩ | ⟨_, own, rfl, rfl⟩) | ⟨_, own, rfl, rfl⟩ <;>
    rcases there with (⟨_, own', number, rfl⟩ | ⟨_, own', number, rfl⟩) | ⟨_, own', number, rfl⟩ <;>
    simp_all

/-- The blocks of an assembled computer have locations. -/
theorem Assembled.blocks {computer : Computer} (assembled : computer.Assembled) :
    ∀ carrier ∈ computer.carriers, carrier.Located := by
  intro carrier member
  obtain ⟨loc, present⟩ := assembled.located carrier member
  obtain ⟨block, own, same⟩ := assembled.tblock carrier member
  refine ⟨fun other inside => ?_, fun plane inside => ?_⟩
  · obtain rfl : other = block := by simpa [own] using inside
    exact ⟨loc, same.trans present⟩
  · exact ⟨loc.stackId, assembled.planes carrier member loc present plane inside⟩

/-- Every key of an assembled computer has one block. -/
theorem Assembled.functional {computer : Computer} (assembled : computer.Assembled) :
    Functional computer.entries := by
  intro key ref other here there
  obtain ⟨carrier, member, here⟩ := List.mem_flatMap.mp here
  obtain ⟨carrier', member', there⟩ := List.mem_flatMap.mp there
  cases key with
  | carrier loc =>
    rw [mem_entries_carrier] at here there
    obtain ⟨block, own, same⟩ := assembled.tblock carrier member
    obtain ⟨block', own', same'⟩ := assembled.tblock carrier' member'
    obtain rfl : block = ⟨ref, some loc⟩ := Option.some.inj (own.symm.trans here)
    obtain rfl : block' = ⟨other, some loc⟩ := Option.some.inj (own'.symm.trans there)
    -- Carriers at one location are the same carrier.
    have one : carrier = carrier' :=
      List.inj_on_of_nodup_map assembled.distinct member member' (same.symm.trans same')
    subst one
    exact congrArg BlockObject.ref (Option.some.inj (here.symm.trans there))
  | plane stack index =>
    rw [mem_entries_plane] at here there
    obtain rfl := assembled.together carrier member carrier' member' _ here _ there rfl
    exact congrArg BlockObject.ref (planes_index here there)

/-- What a route does not change of a carrier: all but the contents of its clusters. -/
def carrierFrame (carrier : CarrierObject) : CarrierObject × List (Option ClusterLoc) :=
  ({ carrier with clusters := [] }, carrier.clusters.map (·.location))

/-- What a route does not change of a computer. -/
def frame (computer : Computer) : List (CarrierObject × List (Option ClusterLoc)) :=
  computer.carriers.map carrierFrame

/-- Changing a cluster at its place keeps the frame. -/
theorem setCluster_frame {computer : Computer} {place : ℕ × ℕ} {cluster : ClusterObject}
    (found : computer.cluster? place = some cluster) (changed : ClusterObject)
    (same : changed.location = cluster.location) :
    (computer.setCluster place changed).frame = computer.frame := by
  obtain ⟨i, j⟩ := place
  obtain ⟨carrier, here, there⟩ := Option.bind_eq_some_iff.mp found
  -- The cluster that is put has the location of the one it replaces.
  have locations : (carrier.clusters.set j changed).map (·.location) =
      carrier.clusters.map (·.location) := by
    refine List.ext_getElem? fun k => ?_
    rw [List.getElem?_map, List.getElem?_map, List.getElem?_set]
    split
    · rename_i equal
      subst equal
      simp only [there, Option.map_some]
      simp [(List.getElem?_eq_some_iff.mp there).1, same]
    · rfl
  refine List.ext_getElem? fun k => ?_
  simp only [frame, setCluster, List.getElem?_map, List.getElem?_modify]
  by_cases equal : i = k
  · subst equal
    simp [here, carrierFrame, locations]
  · simp [equal]

/-- A changed cluster is found at its place. -/
theorem cluster?_setCluster {computer : Computer} {place : ℕ × ℕ} {cluster : ClusterObject}
    (found : computer.cluster? place = some cluster) (changed : ClusterObject) (other : ℕ × ℕ) :
    (computer.setCluster place changed).cluster? other =
      if other = place then some changed else computer.cluster? other := by
  obtain ⟨i, j⟩ := place
  obtain ⟨i', j'⟩ := other
  obtain ⟨carrier, here, there⟩ := Option.bind_eq_some_iff.mp found
  have inside := (List.getElem?_eq_some_iff.mp there).1
  simp only [cluster?, setCluster, List.getElem?_modify, Prod.mk.injEq]
  -- Another carrier, another cluster of the carrier, or this very one.
  by_cases row : i' = i
  · subst row
    by_cases column : j' = j
    · subst column
      simp [here, inside]
    · simp [here, column, Ne.symm column]
  · simp [row, Ne.symm row]

/-- The clusters with their lanes are those at some place. -/
theorem mem_sinks {computer : Computer} {cluster : ClusterObject} {lane : Fin 32} :
    (cluster, lane) ∈ computer.sinks ↔ ∃ place, computer.cluster? place = some cluster := by
  simp only [sinks, List.mem_flatMap, List.mem_map, List.mem_finRange, Prod.mk.injEq, true_and]
  -- A sink is a lane of any cluster, wherever it is.
  constructor
  · rintro ⟨carrier, member, other, inside, _, rfl, rfl⟩
    obtain ⟨i, here⟩ := List.mem_iff_getElem?.mp member
    obtain ⟨j, there⟩ := List.mem_iff_getElem?.mp inside
    exact ⟨(i, j), by simp [cluster?, here, there]⟩
  · rintro ⟨⟨i, j⟩, found⟩
    obtain ⟨carrier, here, there⟩ := Option.bind_eq_some_iff.mp found
    exact ⟨carrier, List.mem_of_getElem? here, cluster, List.mem_of_getElem? there, lane, rfl, rfl⟩

/-- Where a cluster is depends on the frame. -/
theorem locate_frame {computer computer' : Computer} (same : computer'.frame = computer.frame)
    (loc : ClusterLoc) : computer'.locate loc = computer.locate loc := by
  have indices : ∀ computer : Computer, (computer.carriers.findIdx? fun carrier =>
      carrier.location = some ⟨loc.stackId, loc.carrierId⟩) =
      computer.frame.findIdx? fun frame => frame.1.location = some ⟨loc.stackId, loc.carrierId⟩ := by
    intro computer
    rw [frame, List.findIdx?_map]
    rfl
  have counts : ∀ (computer : Computer) (place : ℕ),
      ((computer.carriers[place]?).map fun carrier => carrier.clusters.length).getD 0 =
        ((computer.frame[place]?).map fun frame => frame.2.length).getD 0 := by
    intro computer place
    rw [frame, List.getElem?_map, Option.map_map]
    simp [Function.comp_def, carrierFrame]
  unfold locate
  rw [indices, indices, same]
  cases computer.frame.findIdx? fun frame =>
      frame.1.location = some ⟨loc.stackId, loc.carrierId⟩ with
  | none => rfl
  | some place =>
    -- The subscript's type depends on the number of clusters.
    have subscripts : ∀ count count' : ℕ, count = count' →
        ((Python.subscript count loc.clusterId).map fun number => (place, number.val)) =
          (Python.subscript count' loc.clusterId).map fun number => (place, number.val) := by
      rintro count _ rfl
      rfl
    exact subscripts _ _ (by rw [counts, counts, same])

/-- What is registered depends on the frame. -/
theorem entries_frame {computer computer' : Computer} (same : computer'.frame = computer.frame) :
    computer'.entries = computer.entries := by
  -- What is registered can be read from the frame alone.
  have read : ∀ computer : Computer, computer.entries = computer.frame.flatMap (·.1.entries) := by
    intro computer
    rw [entries, frame, List.flatMap_map]
    rfl
  rw [read, read, same]

/-- A carrier is one of the carriers before, but for its clusters. -/
theorem exists_of_frame {computer computer' : Computer} (same : computer'.frame = computer.frame)
    {carrier : CarrierObject} (member : carrier ∈ computer'.carriers) :
    ∃ before ∈ computer.carriers, carrierFrame before = carrierFrame carrier := by
  -- The frames are listed in the order of the carriers.
  have framed : carrierFrame carrier ∈ computer'.frame := List.mem_map_of_mem member
  rw [same] at framed
  exact List.mem_map.mp framed

/-- A connected lane of a selection block carries its input. -/
theorem ublock_connect_carries {u u' : UBlock} {input output : Int}
    (connected : u.connect input [output] false = .ok u') :
    ∃ lane, Python.subscript 32 output = .ok lane ∧ u'.outputs.get lane = some input := by
  -- A lane outside the block raises.
  cases position : Python.subscript 32 output with
  | error error =>
    simp [UBlock.connect, UBlock.checkOutput, position, bind, Except.bind] at connected
  | ok lane =>
    refine ⟨lane, rfl, ?_⟩
    unfold UBlock.connect at connected
    cases checked : [output].forM (u.checkOutput input) with
    | error error => simp [checked, bind, Except.bind] at connected
    | ok done =>
      simp [checked, UBlock.setOutput, position, bind, Except.bind, pure, Except.pure] at connected
      subst connected
      simp [Vector.get_eq_getElem]

/-- The float of an assigned coefficient is the lane's factor. -/
theorem cblock_assign_carries {c c' : CBlock} {lane : Int} {coefficient : Number}
    (assigned : c.assignFactor lane coefficient = .ok c') :
    ∃ index, Python.subscript 32 lane = .ok index ∧
      (c'.elements.get index).val = coefficient.rounded := by
  unfold CBlock.assignFactor at assigned
  cases position : Python.subscript 32 lane with
  | error error => simp [position, bind, Except.bind] at assigned
  | ok index =>
    refine ⟨index, rfl, ?_⟩
    -- The stored factor is the float of the coefficient.
    cases valid : Factor.validate coefficient with
    | error error => simp [position, valid, bind, Except.bind] at assigned
    | ok factor =>
      simp only [position, valid, bind, Except.bind, pure, Except.pure, Except.ok.injEq] at assigned
      subst assigned
      simpa [Vector.get_eq_getElem] using Factor.val_of_validate valid

/-- A lane is summed if it is among the lanes of some output. -/
theorem sums_iff {iblock : IBlockObject} {lane : Int} :
    iblock.sums lane = true ↔ ∃ output, lane ∈ iblock.outputs.get output := by
  simp only [IBlockObject.sums, List.any_eq_true, decide_eq_true_eq, Vector.mem_toList_iff,
    Vector.get_eq_getElem]
  -- The lane is a summand of one of the outputs.
  constructor
  · rintro ⟨summands, listed, member⟩
    obtain ⟨index, bound, rfl⟩ := Vector.mem_iff_getElem.mp listed
    exact ⟨⟨index, bound⟩, member⟩
  · rintro ⟨output, member⟩
    exact ⟨_, Vector.getElem_mem output.isLt, member⟩

/-- A connected lane is summed into its output, and the others are summed as before. -/
theorem iblock_connect_sums {i i' : IBlockObject} {lane output : Int}
    (connected : i.connect lane output = .ok i') :
    (∃ index, Python.subscript 16 output = .ok index ∧ lane ∈ i'.outputs.get index) ∧
      i'.upscaling = i.upscaling ∧
      ∀ other, i'.sums other = true ↔ i.sums other = true ∨ other = lane := by
  unfold IBlockObject.connect at connected
  split at connected
  · cases connected
  cases position : Python.subscript 16 output with
  | error error => simp [position, bind, Except.bind] at connected
  | ok index =>
    simp only [position, bind, Except.bind, pure, Except.pure, Except.ok.injEq] at connected
    subst connected
    -- Only the output that was connected has another set of lanes, one lane larger.
    have lanes : ∀ place : Fin 16, (i.outputs.set index.val (i.outputs.get index ∪ {lane})
        index.isLt).get place =
        if place = index then i.outputs.get index ∪ {lane} else i.outputs.get place := by
      intro place
      rw [Vector.get_eq_getElem, Vector.getElem_set]
      by_cases same : place = index
      · rw [if_pos (congrArg Fin.val same.symm), if_pos same]
      · rw [if_neg fun equal => same (Fin.ext equal.symm), if_neg same, Vector.get_eq_getElem]
    refine ⟨⟨index, rfl, by rw [lanes, if_pos rfl]; simp⟩, rfl, fun other => ?_⟩
    rw [sums_iff, sums_iff]
    simp only [lanes]
    constructor
    · rintro ⟨place, member⟩
      split at member
      · rcases Finset.mem_union.mp member with before | new
        · exact .inl ⟨index, before⟩
        · exact .inr (Finset.mem_singleton.mp new)
      · exact .inl ⟨place, member⟩
    · rintro (⟨place, before⟩ | rfl)
      · refine ⟨place, ?_⟩
        split
        · rename_i same
          exact Finset.mem_union_left _ (same ▸ before)
        · exact before
      · exact ⟨index, by rw [if_pos rfl]; simp⟩

/-- The cluster at a location. -/
def clusterAt (computer : Computer) (loc : ClusterLoc) : Option ClusterObject :=
  match computer.locate loc with
  | .ok place => computer.cluster? place
  | .error _ => none

/-- The blocks of the two clusters carry what was routed. -/
structure Carries (computer : Computer) (srcMath : Int) (srcLane sinkLane : LaneLoc)
    (sinkMath : Int) (coefficient : ℚ) : Prop where
  source : ∃ cluster lane, computer.clusterAt srcLane.cluster = some cluster ∧
    Python.subscript 32 srcLane.laneId = .ok lane ∧
    cluster.ublock.outputs.get lane = some srcMath ∧
    (cluster.cblock.elements.get lane).val = coefficient
  -- A lane is summed under the number of the lane, not under its position.
  sink : ∃ cluster output, computer.clusterAt sinkLane.cluster = some cluster ∧
    Python.subscript 16 sinkMath = .ok output ∧ sinkLane.laneId ∈ cluster.iblock.outputs.get output

/-- What a route that returned has changed of the computer. -/
structure Effect (computer computer' : Computer) (sinkLane : LaneLoc) : Prop where
  frame : computer'.frame = computer.frame
  /-- The clusters stay where they are, and only the sink sums one more lane. -/
  others : ∀ place after, computer'.cluster? place = some after →
    ∃ before, computer.cluster? place = some before ∧ after.location = before.location ∧
      ∀ lane, after.iblock.sums lane = true ↔ before.iblock.sums lane = true ∨
        (computer.locate sinkLane.cluster = .ok place ∧ lane = sinkLane.laneId)

/-- A part of a route that changes a cluster. -/
theorem onCluster_returned {place : ℕ × ℕ} {change : ClusterObject → Except PyError ClusterObject}
    {computer computer' : Computer} {m m' : Memory}
    (returned : onCluster place change (computer, m) = .ok () (computer', m')) :
    m' = m ∧ ∃ before after, computer.cluster? place = some before ∧ change before = .ok after ∧
      computer' = computer.setCluster place after := by
  simp only [onCluster] at returned
  -- A place without a cluster and a change that raises do not return.
  split at returned
  · cases returned
  · rename_i before found
    split at returned
    · rename_i after changed
      cases returned
      exact ⟨rfl, before, after, found, changed, rfl⟩
    · cases returned

/-- A part of a route that finds a cluster. -/
theorem findCluster_returned {loc : ClusterLoc} {place : ℕ × ℕ} {state state' : Computer × Memory}
    (returned : findCluster loc state = .ok place state') :
    state' = state ∧ state.1.locate loc = .ok place := by
  obtain ⟨computer, m⟩ := state
  simp only [findCluster] at returned
  -- The search changes nothing.
  split at returned
  · rename_i found
    cases returned
    exact ⟨rfl, found⟩
  · cases returned

/-- A part of a route that works on the shared blocks. -/
theorem onMemory_returned {work : MemoryM Unit} {state state' : Computer × Memory}
    (returned : onMemory work state = .ok () state') :
    state'.1 = state.1 ∧ work state.2 = .ok () state'.2 := by
  obtain ⟨computer, m⟩ := state
  simp only [onMemory] at returned
  -- The computer is not touched by a change of the memory.
  split at returned
  · rename_i done
    cases returned
    exact ⟨rfl, done⟩
  · cases returned

/-- A change of a block that did not raise. -/
theorem map_eq_ok {α β : Type} {change : α → β} {result : Except PyError α} {b : β}
    (returned : result.map change = .ok b) : ∃ a, result = .ok a ∧ change a = b := by
  -- What raises does not return.
  cases result with
  | error error => cases returned
  | ok a => exact ⟨a, rfl, Except.ok.inj returned⟩

/-- What a route that returned has done. -/
theorem route_returned {srcMath sinkMath : Int} {srcLane sinkLane : LaneLoc}
    {coefficient : Number}
    {computer computer' : Computer} {m m' : Memory}
    (returned : route srcMath srcLane sinkLane sinkMath coefficient (computer, m) =
      .ok () (computer', m')) :
    Memory.route srcLane sinkLane m = .ok () m' ∧ Effect computer computer' sinkLane ∧
      computer'.Carries srcMath srcLane sinkLane sinkMath coefficient.rounded := by
  unfold route at returned
  simp only [Raising.bind_eq_ok] at returned
  obtain ⟨place, _, found, target, _, found', _, ⟨first, _⟩, selected, _, ⟨second, _⟩, scaled, _,
    ⟨third, _⟩, routed, summed⟩ := returned
  obtain ⟨rfl, located⟩ := findCluster_returned found
  obtain ⟨rfl, located'⟩ := findCluster_returned found'
  obtain ⟨rfl, source, withInput, here, connected, rfl⟩ := onCluster_returned selected
  obtain ⟨rfl, middle, withFactor, there, assigned, rfl⟩ := onCluster_returned scaled
  obtain ⟨rfl, routed⟩ := onMemory_returned routed
  obtain ⟨rfl, before, after, last, added, rfl⟩ := onCluster_returned summed
  obtain ⟨ublock, carriesInput, rfl⟩ := map_eq_ok connected
  obtain rfl : ({ source with ublock } : ClusterObject) = middle := by
    rw [cluster?_setCluster here, if_pos rfl] at there
    exact Option.some.inj there
  obtain ⟨cblock, carriesFactor, rfl⟩ := map_eq_ok assigned
  obtain ⟨iblock, sumsLane, rfl⟩ := map_eq_ok added
  -- The source's cluster is written twice, the second time with both blocks.
  have twice : ∀ spot cluster, ((computer.setCluster place { source with ublock }).setCluster place
      { source with ublock, cblock }).cluster? spot = some cluster →
      ∃ earlier, computer.cluster? spot = some earlier ∧ cluster.location = earlier.location ∧
        cluster.iblock = earlier.iblock := by
    intro spot cluster found
    rw [cluster?_setCluster there, cluster?_setCluster here] at found
    split at found
    · rename_i same
      cases found
      exact ⟨source, same ▸ here, rfl, rfl⟩
    · exact ⟨cluster, found, rfl, rfl⟩
  have frame := (setCluster_frame last { before with iblock } rfl).trans
    ((setCluster_frame there { source with ublock, cblock } rfl).trans
      (setCluster_frame here { source with ublock } rfl))
  obtain ⟨output, _, sums⟩ := iblock_connect_sums sumsLane
  refine ⟨routed, ⟨frame, fun spot after found => ?_⟩, ?_, ?_⟩
  · rw [cluster?_setCluster last] at found
    split at found
    · rename_i same
      cases found
      obtain ⟨earlier, was, location, unchanged⟩ := twice spot before (same ▸ last)
      refine ⟨earlier, was, location, fun lane => ?_⟩
      rw [sums, unchanged]
      simp only [same, located', true_and]
    · rename_i apart
      obtain ⟨earlier, was, location, unchanged⟩ := twice spot after found
      refine ⟨earlier, was, location, fun lane => ?_⟩
      rw [unchanged, located']
      -- The sink's cluster is at another place, so that nothing is added here.
      simp only [Except.ok.injEq, Ne.symm apart, false_and, or_false]
  · obtain ⟨lane, position, input⟩ := ublock_connect_carries carriesInput
    obtain ⟨lane', position', factor⟩ := cblock_assign_carries carriesFactor
    obtain rfl : lane = lane' := Except.ok.inj (position.symm.trans position')
    have written := cluster?_setCluster there { source with ublock, cblock } place
    rw [if_pos rfl] at written
    simp only [clusterAt, locate_frame frame, located]
    rw [cluster?_setCluster last]
    split
    · rename_i same
      subst same
      obtain rfl := Option.some.inj (written.symm.trans last)
      exact ⟨_, lane, rfl, position, input, factor⟩
    · exact ⟨_, lane, written, position, input, factor⟩
  · obtain ⟨index, position, member⟩ := output
    simp only [clusterAt, locate_frame frame, located']
    rw [cluster?_setCluster last, if_pos rfl]
    exact ⟨_, index, rfl, position, member⟩

/-- The blocks on the way of a route are registered, as the computer's own. -/
def OwnsWay (computer : Computer) (m : Memory) (srcLane sinkLane : LaneLoc) : Prop :=
  ∀ setting ∈ Router.path srcLane sinkLane, ∃ ref,
    (setting.1.key, ref) ∈ computer.entries ∧ m.entry setting.1.key = some ref

/-- The blocks with the settings of a route made, once the computer's carriers are registered. -/
def settled (computer : Computer) (m : Memory) (srcLane sinkLane : LaneLoc) : Memory :=
  Raising.final (Memory.connectAll (Router.path srcLane sinkLane) (m.registerAll computer.entries))

/-- A block is registered where its key refers to something. -/
theorem view_has {m : Memory} {mux : Mux} {ref : ℕ} (found : m.entry mux.key = some ref) :
    m.view.Has mux := by
  -- Blocks of carriers and of the backplane are registered apart.
  cases mux with
  | carrier loc sector lane =>
    have here : m.carriers.table loc = some ref := found
    simp [Routing.Has, Memory.view, here]
  | backplane stack index sector lane =>
    have here : m.planes.table (stack, index) = some ref := found
    simp [Routing.Has, Memory.view, here]

/-- What a multiplexer selects depends on the block its key refers to. -/
theorem view_select {m n : Memory} (carriers : m.carriers.object = n.carriers.object)
    (planes : m.planes.object = n.planes.object) {mux : Mux}
    (same : m.entry mux.key = n.entry mux.key) : m.view.select mux = n.view.select mux := by
  -- A multiplexer is read from the object its key leads to.
  cases mux with
  | carrier loc sector lane =>
    have here : m.carriers.table loc = n.carriers.table loc := same
    simp only [Routing.select, Routing.carrierSource, Memory.view_findCarrierTBlock,
      Shared.Store.find, here, carriers]
  | backplane stack index sector lane =>
    have here : m.planes.table (stack, index) = n.planes.table (stack, index) := same
    simp only [Routing.select, Routing.bplSource, Memory.view_findBplTBlock, Shared.Store.find,
      here, planes]

/-- The blocks of a memory without its tables. -/
def unregistered (m : Memory) : Memory where
  carriers := ⟨fun _ => none, m.carriers.object⟩
  planes := ⟨fun _ => none, m.planes.object⟩

/-- The computer's own registrations refer to different blocks. -/
theorem own_single {computer : Computer} (assembled : computer.Assembled) (m : Memory) :
    ((unregistered m).registerAll computer.entries).Single := by
  -- What is registered is one of the entries, since nothing was registered before them.
  have own : ∀ key ref, ((unregistered m).registerAll computer.entries).entry key = some ref →
      (key, ref) ∈ computer.entries := by
    intro key ref found
    rcases Memory.registerAll_entry key computer.entries (unregistered m) with
      ⟨other, member, last⟩ | ⟨_, kept⟩
    · obtain rfl := Option.some.inj (last.symm.trans found)
      exact member
    · have none := kept.symm.trans found
      cases key <;> cases none
  constructor
  · exact fun loc other ref here there => assembled.objects loc other ref
      (own (.carrier loc) ref here) (own (.carrier other) ref there)
  · rintro ⟨stack, index⟩ ⟨stack', index'⟩ ref here there
    obtain ⟨rfl, rfl⟩ := assembled.planeObjects stack index stack' index' ref
      (own (.plane stack index) ref here) (own (.plane stack' index') ref there)
    rfl

/-- The blocks on the way are found when the carriers are registered, whatever was before. -/
theorem OwnsWay.entry {computer : Computer} (assembled : computer.Assembled) {m : Memory}
    {srcLane sinkLane : LaneLoc} (own : computer.OwnsWay m srcLane sinkLane) (n : Memory)
    {setting : Mux × Int} (member : setting ∈ Router.path srcLane sinkLane) :
    ∃ ref, (n.registerAll computer.entries).entry setting.1.key = some ref ∧
      m.entry setting.1.key = some ref := by
  -- A block of the way is one that the computer has registered last.
  obtain ⟨ref, listed, here⟩ := own setting member
  exact ⟨ref, (registerAll_functional assembled.functional n _).1 ref listed, here⟩

/-- Settings of own blocks are made alike where nothing else is registered. -/
theorem OwnsWay.connects {computer : Computer} (assembled : computer.Assembled) {m n : Memory}
    {srcLane sinkLane : LaneLoc} (own : computer.OwnsWay m srcLane sinkLane)
    (connected : Memory.connectAll (Router.path srcLane sinkLane) (m.registerAll computer.entries) =
      .ok () n) :
    ∃ t, Memory.connectAll (Router.path srcLane sinkLane)
        ((unregistered m).registerAll computer.entries) = .ok () t ∧
      ∀ setting ∈ Router.path srcLane sinkLane,
        n.view.select setting.1 = t.view.select setting.1 := by
  have same : ∀ setting ∈ Router.path srcLane sinkLane,
      (m.registerAll computer.entries).entry setting.1.key =
        ((unregistered m).registerAll computer.entries).entry setting.1.key := by
    intro setting member
    obtain ⟨ref, here, found⟩ := own.entry assembled m member
    obtain ⟨ref', there, found'⟩ := own.entry assembled (unregistered m) member
    rw [here, there, ← found, found']
  have objects := Memory.registerAll_objects computer.entries m
  have bare := Memory.registerAll_objects computer.entries (unregistered m)
  have alike := Memory.connectAll_mirrors same (m.registerAll computer.entries) _
    ⟨objects.1.trans bare.1.symm, objects.2.trans bare.2.symm, ⟨rfl, rfl⟩, ⟨rfl, rfl⟩⟩
  rw [connected] at alike
  cases ended : Memory.connectAll (Router.path srcLane sinkLane)
      ((unregistered m).registerAll computer.entries) with
  | error error t =>
    rw [ended] at alike
    exact alike.elim
  | ok done t =>
    rw [ended] at alike
    -- Both hold the same blocks afterwards, and the tables agree on those of the way.
    have mirrors := alike.2
    refine ⟨t, rfl, fun setting member => view_select mirrors.carriers mirrors.planes ?_⟩
    rw [Memory.entry_of_tables mirrors.left, Memory.entry_of_tables mirrors.right]
    exact same setting member

/-- The settings of a route over the computer's own blocks are in the blocks of its carriers. -/
theorem OwnsWay.settled {computer : Computer} (assembled : computer.Assembled) {m m' : Memory}
    {srcLane sinkLane : LaneLoc} (own : computer.OwnsWay m srcLane sinkLane)
    (routed : Memory.route srcLane sinkLane m = .ok () m') :
    Router.Routable srcLane sinkLane ∧
      m'.registerAll computer.entries = computer.settled m srcLane sinkLane ∧
      ∀ setting ∈ Router.path srcLane sinkLane,
        (computer.settled m srcLane sinkLane).view.select setting.1 = .ok (some setting.2) := by
  unfold Memory.route at routed
  cases refused : Router.refusal srcLane sinkLane with
  | some error => simp [refused] at routed
  | none =>
    simp only [refused] at routed
    have later := (Memory.connectAll_registered assembled.functional own routed).2
    have settled : computer.settled m srcLane sinkLane = m'.registerAll computer.entries := by
      rw [Computer.settled, later]
      rfl
    -- Where only the computer's blocks are registered, the tables hold them by value.
    obtain ⟨t, ended, agree⟩ := own.connects assembled later
    have viewed := Memory.connectAll_viewed (Router.path srcLane sinkLane) _
      (own_single assembled m)
    rw [ended] at viewed
    have connected := Router.connectAll_connected (Router.path srcLane sinkLane) _
      fun setting member => view_has (own.entry assembled (unregistered m) member).choose_spec.1
    rw [viewed] at connected
    have routable : Router.Routable srcLane sinkLane := ⟨refused, connected.returns.mp ⟨_, rfl⟩⟩
    refine ⟨routable, settled.symm, fun setting member => ?_⟩
    rw [settled, agree setting member]
    exact connected.selected (Router.path_functional srcLane sinkLane) setting
      (by rw [routable.made]; exact member)

/--
The tables in which a route over the computer's own blocks changes nothing but its way.

No block is then registered at two places, and the dependency information could be serialized.
-/
structure Prepared (computer : Computer) (m : Memory) (srcLane sinkLane : LaneLoc) : Prop where
  -- The blocks of the way are found under their own keys.
  registered : computer.OwnsWay m srcLane sinkLane
  /-- No block is registered at two places, and the computer's blocks at none but their own. -/
  single : m.Single
  own : ∀ loc ref, (.carrier loc, ref) ∈ computer.entries →
    ∀ other, m.carriers.table other = some ref → other = loc
  ownPlanes : ∀ stack index ref, (.plane stack index, ref) ∈ computer.entries →
    ∀ other, m.planes.table other = some ref → other = (stack, index)
  /-- The dependency information could be serialized before the route. -/
  serialized : ∃ fuel items, (computer.serializeDependencyInfo fuel m).1 = some (.ok items)

/-- The blocks are registered once, also behind the registration of the computer's carriers. -/
theorem Prepared.single_registered {computer : Computer} (assembled : computer.Assembled)
    {m : Memory} {srcLane sinkLane : LaneLoc} (prepared : computer.Prepared m srcLane sinkLane) :
    (m.registerAll computer.entries).Single := by
  constructor
  · intro loc other ref here there
    -- Each of the two entries is one of the computer's or one from before.
    rcases Memory.registerAll_entry (.carrier loc) computer.entries m with
      ⟨found, member, last⟩ | ⟨absent, kept⟩ <;>
      rcases Memory.registerAll_entry (.carrier other) computer.entries m with
        ⟨found', member', last'⟩ | ⟨absent', kept'⟩
    · obtain rfl := Option.some.inj (last.symm.trans here)
      obtain rfl := Option.some.inj (last'.symm.trans there)
      exact assembled.objects loc other _ member member'
    · obtain rfl := Option.some.inj (last.symm.trans here)
      exact (prepared.own loc _ member other (kept'.symm.trans there)).symm
    · obtain rfl := Option.some.inj (last'.symm.trans there)
      exact prepared.own other _ member' loc (kept.symm.trans here)
    · exact prepared.single.carriers loc other ref (kept.symm.trans here) (kept'.symm.trans there)
  · rintro ⟨stack, index⟩ ⟨stack', index'⟩ ref here there
    -- The same for the planes.
    rcases Memory.registerAll_entry (.plane stack index) computer.entries m with
      ⟨found, member, last⟩ | ⟨absent, kept⟩ <;>
      rcases Memory.registerAll_entry (.plane stack' index') computer.entries m with
        ⟨found', member', last'⟩ | ⟨absent', kept'⟩
    · obtain rfl := Option.some.inj (last.symm.trans here)
      obtain rfl := Option.some.inj (last'.symm.trans there)
      obtain ⟨rfl, rfl⟩ := assembled.planeObjects stack index stack' index' _ member member'
      rfl
    · obtain rfl := Option.some.inj (last.symm.trans here)
      exact (prepared.ownPlanes stack index _ member _ (kept'.symm.trans there)).symm
    · obtain rfl := Option.some.inj (last'.symm.trans there)
      exact prepared.ownPlanes stack' index' _ member' _ (kept.symm.trans here)
    · exact prepared.single.planes _ _ ref (kept.symm.trans here) (kept'.symm.trans there)

/-- The route is found in the tables as they are once the carriers are registered. -/
theorem Prepared.rerouted {computer : Computer} (assembled : computer.Assembled) {m m' : Memory}
    {srcLane sinkLane : LaneLoc} (prepared : computer.Prepared m srcLane sinkLane)
    (cluster : 0 ≤ srcLane.clusterId) (routed : Memory.route srcLane sinkLane m = .ok () m') :
    Tracer.Rerouted (m.registerAll computer.entries).view (m'.registerAll computer.entries).view
      srcLane sinkLane := by
  unfold Memory.route at routed
  -- A route that is refused does not return.
  cases refused : Router.refusal srcLane sinkLane with
  | some error => simp [refused] at routed
  | none =>
    simp only [refused] at routed
    have later := (Memory.connectAll_registered assembled.functional prepared.registered routed).2
    have viewed := Memory.connectAll_viewed (Router.path srcLane sinkLane) _
      (prepared.single_registered assembled)
    rw [later] at viewed
    have has : ∀ setting ∈ Router.path srcLane sinkLane,
        (m.registerAll computer.entries).view.Has setting.1 := by
      intro setting member
      obtain ⟨ref, owned, _⟩ := prepared.registered setting member
      exact view_has ((registerAll_functional assembled.functional m _).1 ref owned)
    have connected := Router.connectAll_connected (Router.path srcLane sinkLane) _ has
    rw [viewed] at connected
    have accepted := connected.returns.mp ⟨_, rfl⟩
    have routable : Router.Routable srcLane sinkLane := ⟨refused, accepted⟩
    refine ⟨routable, cluster, fun setting member => ?_, fun mux real => ?_⟩
    · refine connected.selected (Router.path_functional srcLane sinkLane) setting ?_
      rw [routable.made]
      exact member
    -- What changed was asked for along the path.
    · rcases connected.changed mux real with same | ⟨source, made, _⟩
      · exact .inl same
      · rw [routable.made] at made
        exact .inr ⟨source, made⟩

end Computer

end Pybrid
