import Pybrid.Library.Raising
import Pybrid.Redac.Router

/-! What the router writes, the tracer finds. -/

namespace Pybrid

/-- The lane locations of a machine: seven carriers, three clusters and 32 lanes. -/
def LaneLoc.InRange (loc : LaneLoc) : Prop :=
  -- Stacks are not bounded.
  (0 ≤ loc.carrierId ∧ loc.carrierId < 7) ∧ (0 ≤ loc.clusterId ∧ loc.clusterId < 3) ∧
    (0 ≤ loc.laneId ∧ loc.laneId < 32)

/-- Lanes of one cluster are lanes of one carrier. -/
theorem LaneLoc.carrier_eq {src dst : LaneLoc} (same : src.cluster = dst.cluster) :
    src.carrier = dst.carrier := by
  simp only [LaneLoc.cluster, ClusterLoc.mk.injEq] at same
  simp [LaneLoc.carrier, same.1, same.2.1]

/-- Every block a route between two lanes can pass is registered. -/
def Routing.Covers (r : Routing) (src dst : LaneLoc) : Prop :=
  -- The backplane has three partitions on each of the stacks in between.
  (r.carrierTBlocks src.carrier).isSome ∧ (r.carrierTBlocks dst.carrier).isSome ∧
    ∀ stack, min src.stackId dst.stackId ≤ stack → stack ≤ max src.stackId dst.stackId →
      ∀ index, 0 ≤ index → index < 3 → (r.bplTBlocks stack index).isSome

namespace Router

open Routing

/-- Writing to a registered carrier block changes one lookup and no registration. -/
theorem connectCarrier_effect {r r' : Routing} {loc : CarrierLoc}
    {srcSector dstSector sectorLane : Int}
    (connected : connectCarrier loc srcSector dstSector sectorLane r = .ok () r')
    (registered : (r.carrierTBlocks loc).isSome) :
    (∀ other sector lane, r'.carrierSource other sector lane =
      if other = loc ∧ sector = dstSector ∧ lane = sectorLane then .ok (some srcSector)
      else r.carrierSource other sector lane) ∧
    (∀ other, (r'.carrierTBlocks other).isSome = (r.carrierTBlocks other).isSome) ∧
    r'.bplTBlocks = r.bplTBlocks ∧ r'.bplDummy = r.bplDummy := by
  -- The block found is the registered one, so that the stand-in is not written.
  obtain ⟨block, found⟩ := Option.isSome_iff_exists.mp registered
  simp only [connectCarrier, findCarrierTBlock, found, Option.getD_some, storeCarrierTBlock]
    at connected
  cases written : block.connect srcSector dstSector sectorLane with
  | error error => simp [written] at connected
  | ok changed =>
    simp only [written, EStateM.Result.ok.injEq, true_and] at connected
    subst connected
    refine ⟨?_, ?_, rfl, rfl⟩
    · intro other sector lane
      by_cases same : other = loc
      · subst same
        simp only [carrierSource, findCarrierTBlock, addTBlock, Function.update_self,
          Option.getD_some, true_and, found]
        exact TBlock.connect_source written sector lane
      · simp [carrierSource, findCarrierTBlock, addTBlock, same]
    · intro other
      by_cases same : other = loc
      · simp [addTBlock, same, found]
      · simp [addTBlock, same]

/-- Writing to a registered backplane block changes one lookup and no registration. -/
theorem connectBpl_effect {r r' : Routing} {stack index srcSector dstSector sectorLane : Int}
    (connected : connectBpl stack index srcSector dstSector sectorLane r = .ok () r')
    (registered : (r.bplTBlocks stack index).isSome) :
    (∀ stack' index' sector lane, (0 ≤ sector ∧ sector < 9) ∧ (0 ≤ lane ∧ lane < 8) →
      r'.bplSource stack' index' sector lane =
        if stack' = stack ∧ index' = index ∧ sector = dstSector ∧ lane = sectorLane then
          .ok (some srcSector)
        else r.bplSource stack' index' sector lane) ∧
    (∀ stack' index', (r'.bplTBlocks stack' index').isSome =
      (r.bplTBlocks stack' index').isSome) ∧
    r'.carrierTBlocks = r.carrierTBlocks ∧ r'.dummy = r.dummy := by
  -- The block found is the registered one, so that the stand-in is not written.
  obtain ⟨block, found⟩ := Option.isSome_iff_exists.mp registered
  simp only [connectBpl, findBplTBlock, found, Option.getD_some, storeBplTBlock] at connected
  cases written : block.connect srcSector dstSector sectorLane with
  | error error => simp [written] at connected
  | ok changed =>
    simp only [written, EStateM.Result.ok.injEq, true_and] at connected
    subst connected
    refine ⟨?_, ?_, rfl, rfl⟩
    · intro stack' index' sector lane inside
      by_cases same : stack' = stack ∧ index' = index
      · obtain ⟨rfl, rfl⟩ := same
        simp only [bplSource, findBplTBlock, addTBplBlock, Function.update_self,
          Option.getD_some, true_and, found]
        exact BackplaneTBlock.connect_source written inside
      · have apart : ¬ (stack' = stack ∧ index' = index ∧ sector = dstSector ∧
            lane = sectorLane) := fun all => same ⟨all.1, all.2.1⟩
        rw [if_neg apart]
        by_cases row : stack' = stack
        · have column : index' ≠ index := fun eq => same ⟨row, eq⟩
          simp [bplSource, findBplTBlock, addTBplBlock, row, column]
        · simp [bplSource, findBplTBlock, addTBplBlock, row]
    · intro stack' index'
      by_cases row : stack' = stack
      · subst row
        by_cases column : index' = index
        · simp [addTBplBlock, column, found]
        · simp [addTBplBlock, column]
      · simp [addTBplBlock, row]

/-- A route inside a carrier is one connection on its block, unless both ends are one direct lane. -/
theorem route_inside {r r' : Routing} {src dst : LaneLoc} (srcInside : src.InRange)
    (covered : r.Covers src dst) (same : src.carrier = dst.carrier)
    (routed : route src dst r = .ok () r') :
    (src.laneId < 8 ∧ src = dst) ∨
      (8 ≤ src.laneId ∧ src.laneId = dst.laneId ∧
        r'.carrierSource dst.carrier (dst.clusterId + 1) (dst.laneId - 8) =
          .ok (some (src.clusterId + 1))) := by
  simp only [route] at routed
  -- The assertions on the identifiers come first.
  iterate 3
    split at routed
    · simp [Raising.bind_eq_ok, Raising.throw_ne_ok] at routed
  split at routed
  · -- Inside one cluster the first eight lanes are direct.
    simp only [routeCluster, same, ne_eq, not_true_eq_false, if_false] at routed
    split at routed
    · rename_i direct
      split at routed
      · simp [Raising.throw_ne_ok] at routed
      · rename_i equal
        exact .inl ⟨direct, not_not.mp equal⟩
    · rename_i switched
      split at routed
      · simp [Raising.bind_eq_ok, Raising.throw_ne_ok] at routed
      · have sources := (connectCarrier_effect routed covered.2.1).1
        refine .inr ⟨by omega, by omega, ?_⟩
        rw [sources, if_pos ⟨rfl, rfl, rfl⟩]
  · -- Between clusters they are refused.
    simp only [routeCarrier] at routed
    split at routed
    · simp [Raising.bind_eq_ok, Raising.throw_ne_ok] at routed
    split at routed
    · simp [Raising.bind_eq_ok, Raising.throw_ne_ok] at routed
    · have sources := (connectCarrier_effect routed covered.2.1).1
      have lane := srcInside.2.2
      refine .inr ⟨by omega, by omega, ?_⟩
      rw [sources, if_pos ⟨rfl, rfl, rfl⟩]

/-- The loop over the stacks in between connects each of them, and touches nothing else. -/
theorem between_effect {r r' : Routing} {between : List Int} {index entry exit lane : Int}
    (sector : 0 ≤ exit ∧ exit < 9) (inside : 0 ≤ lane ∧ lane < 8)
    (registered : ∀ stack ∈ between, (r.bplTBlocks stack index).isSome)
    (ran : (between.forM fun stack => connectBpl stack index entry exit lane) r = .ok () r') :
    (∀ stack ∈ between, r'.bplSource stack index exit lane = .ok (some entry)) ∧
    (∀ stack, stack ∉ between → ∀ sector, 0 ≤ sector ∧ sector < 9 →
      r'.bplSource stack index sector lane = r.bplSource stack index sector lane) ∧
    (∀ stack, (r'.bplTBlocks stack index).isSome = (r.bplTBlocks stack index).isSome) ∧
    r'.carrierTBlocks = r.carrierTBlocks ∧ r'.dummy = r.dummy := by
  -- The invariant is the conclusion, with the stacks done so far in place of all of them.
  refine Raising.forM_invariant (fun done s =>
    (∀ stack ∈ done, s.bplSource stack index exit lane = .ok (some entry)) ∧
    (∀ stack, stack ∉ done → ∀ sector, 0 ≤ sector ∧ sector < 9 →
      s.bplSource stack index sector lane = r.bplSource stack index sector lane) ∧
    (∀ stack, (s.bplTBlocks stack index).isSome = (r.bplTBlocks stack index).isSome) ∧
    s.carrierTBlocks = r.carrierTBlocks ∧ s.dummy = r.dummy) ?_ ?_ ran
  · intro done next later before after whole held step
    obtain ⟨connected, untouched, present, carriers, dummy⟩ := held
    have member : next ∈ between := by simp [whole]
    obtain ⟨sources, kept, carriers', dummy'⟩ := connectBpl_effect step
      (by rw [present]; exact registered next member)
    refine ⟨?_, ?_, fun stack => by rw [kept, present], by rw [carriers', carriers],
      by rw [dummy', dummy]⟩
    · intro stack done'
      rw [sources _ _ _ _ ⟨sector, inside⟩]
      split
      · rfl
      · rename_i earlier
        rcases List.mem_append.mp done' with before' | own
        · exact connected stack before'
        · exact absurd ⟨List.mem_singleton.mp own, rfl, rfl, rfl⟩ earlier
    · intro stack foreign sector' inside'
      simp only [List.mem_append, List.mem_singleton, not_or] at foreign
      rw [sources _ _ _ _ ⟨inside', inside⟩, if_neg fun all => foreign.2 all.1]
      exact untouched stack foreign.1 sector' inside'
  · exact ⟨by simp, fun _ _ _ _ => rfl, fun _ => rfl, rfl, rfl⟩

/-- The backplane entries of a route over several stacks, from the sink back to the source. -/
structure Chain (r : Routing) (src dst : LaneLoc) (index lane entry exit : Int)
    (between : List Int) : Prop where
  /-- The sink listens to where the signal enters its stack. -/
  last : r.bplSource dst.stackId index dst.carrierId lane = .ok (some entry)
  /-- The stacks in between pass the signal on. -/
  passed : ∀ stack ∈ between, r.bplSource stack index exit lane = .ok (some entry)
  /-- The signal leaves the stack of the source where it comes from the source. -/
  first : r.bplSource src.stackId index exit lane = .ok (some src.carrierId)

/-- The three parts of a route over several stacks write their chain and no carrier block. -/
theorem chain_effect {r opened passed r' : Routing} {src dst : LaneLoc}
    {index lane entry exit : Int} {between : List Int} (sector : 7 ≤ exit ∧ exit < 9)
    (inside : 0 ≤ lane ∧ lane < 8) (dstInside : dst.InRange) (apart : src.stackId ≠ dst.stackId)
    (ends : src.stackId ∉ between ∧ dst.stackId ∉ between)
    (registered : ∀ stack ∈ src.stackId :: dst.stackId :: between,
      (r.bplTBlocks stack index).isSome)
    (first : connectBpl src.stackId index src.carrierId exit lane r = .ok () opened)
    (loop : (between.forM fun stack => connectBpl stack index entry exit lane) opened =
      .ok () passed)
    (last : connectBpl dst.stackId index entry dst.carrierId lane passed = .ok () r') :
    Chain r' src dst index lane entry exit between ∧
      r'.carrierTBlocks = r.carrierTBlocks ∧ r'.dummy = r.dummy := by
  -- Each part is known by what it writes, and the later parts write elsewhere.
  have exitInside : 0 ≤ exit ∧ exit < 9 := by omega
  have carrier : 0 ≤ dst.carrierId ∧ dst.carrierId < 9 := by
    have := dstInside.1
    omega
  obtain ⟨opens, kept, carriers, dummy⟩ := connectBpl_effect first (registered _ (by simp))
  obtain ⟨passes, untouched, kept', carriers', dummy'⟩ := between_effect exitInside inside
    (fun stack member => by rw [kept]; exact registered stack (by simp [member])) loop
  obtain ⟨closes, _, carriers'', dummy''⟩ := connectBpl_effect last
    (by rw [kept', kept]; exact registered _ (by simp))
  refine ⟨⟨?_, ?_, ?_⟩, by rw [carriers'', carriers', carriers], by rw [dummy'', dummy', dummy]⟩
  · rw [closes _ _ _ _ ⟨carrier, inside⟩, if_pos ⟨rfl, rfl, rfl, rfl⟩]
  · intro stack member
    rw [closes _ _ _ _ ⟨exitInside, inside⟩, if_neg, passes stack member]
    -- The last write is on the sink's own stack.
    intro found
    obtain ⟨same, -⟩ := found
    exact ends.2 (same ▸ member)
  · rw [closes _ _ _ _ ⟨exitInside, inside⟩, if_neg fun all => apart all.1,
      untouched _ ends.1 _ exitInside, opens _ _ _ _ ⟨exitInside, inside⟩,
      if_pos ⟨rfl, rfl, rfl, rfl⟩]

/-- The backplane entries of a route between carriers, for each of its three forms. -/
def Bridge (r : Routing) (src dst : LaneLoc) : Prop :=
  -- On one stack the sink listens to the source; otherwise the signal climbs or descends.
  (src.stackId = dst.stackId ∧
      r.bplSource dst.stackId ((dst.laneId - 8) / 8) dst.carrierId (dst.laneId % 8) =
        .ok (some src.carrierId)) ∨
    (src.stackId < dst.stackId ∧ Chain r src dst ((dst.laneId - 8) / 8) (dst.laneId % 8) 8 7
      (Python.range (src.stackId + 1) dst.stackId 1)) ∨
    (dst.stackId < src.stackId ∧ Chain r src dst ((dst.laneId - 8) / 8) (dst.laneId % 8) 7 8
      (Python.range (src.stackId + -1) dst.stackId (-1)))

/-- A route between carriers connects both of them to the backplane, and bridges it. -/
theorem routeStack_sources {r r' : Routing} {src dst : LaneLoc} (dstInside : dst.InRange)
    (covered : r.Covers src dst) (apart : src.carrier ≠ dst.carrier)
    (routed : routeStack src dst r = .ok () r') :
    (8 ≤ dst.laneId ∧ src.laneId = dst.laneId) ∧
    r'.carrierSource dst.carrier (dst.clusterId + 1) (dst.laneId - 8) = .ok (some 0) ∧
    r'.carrierSource src.carrier 0 (dst.laneId - 8) = .ok (some (src.clusterId + 1)) ∧
    Bridge r' src dst := by
  simp only [routeStack] at routed
  split at routed
  · simp [Raising.bind_eq_ok, Raising.throw_ne_ok] at routed
  rename_i sameLane
  split at routed
  · simp [Raising.bind_eq_ok, Raising.throw_ne_ok] at routed
  rename_i switched
  have lane : src.laneId = dst.laneId := not_not.mp sameLane
  have laneInside : 0 ≤ dst.laneId % 8 ∧ dst.laneId % 8 < 8 := by omega
  have index : 0 ≤ (dst.laneId - 8) / 8 ∧ (dst.laneId - 8) / 8 < 3 := by omega
  have carrierInside : 0 ≤ dst.carrierId ∧ dst.carrierId < 9 := by
    have := dstInside.1
    omega
  rw [lane] at routed switched
  simp only [Raising.bind_eq_ok] at routed
  obtain ⟨_, sent, output, _, received, input, bridged⟩ := routed
  -- The two carrier blocks are different ones, so the second write keeps the first.
  obtain ⟨outputs, present, bpls, bplDummy⟩ := connectCarrier_effect output covered.1
  obtain ⟨inputs, _, bpls', bplDummy'⟩ := connectCarrier_effect input
    (by rw [present]; exact covered.2.1)
  have registered : ∀ stack, min src.stackId dst.stackId ≤ stack →
      stack ≤ max src.stackId dst.stackId →
      (received.bplTBlocks stack ((dst.laneId - 8) / 8)).isSome := by
    intro stack low high
    rw [bpls', bpls]
    exact covered.2.2 stack low high _ index.1 index.2
  have sinkEntry : received.carrierSource dst.carrier (dst.clusterId + 1) (dst.laneId - 8) =
      .ok (some 0) := by
    rw [inputs, if_pos ⟨rfl, rfl, rfl⟩]
  have sourceExit : received.carrierSource src.carrier 0 (dst.laneId - 8) =
      .ok (some (src.clusterId + 1)) := by
    rw [inputs, if_neg fun all => apart all.1, outputs, if_pos ⟨rfl, rfl, rfl⟩]
  -- The backplane writes that follow leave the carrier blocks alone.
  have carriers : ∀ {s : Routing}, s.carrierTBlocks = received.carrierTBlocks →
      s.dummy = received.dummy → ∀ loc sector lane,
      s.carrierSource loc sector lane = received.carrierSource loc sector lane := by
    intro s blocks dummy loc sector lane
    simp [carrierSource, findCarrierTBlock, blocks, dummy]
  refine ⟨⟨by omega, lane⟩, ?_⟩
  split at bridged
  · rename_i stack
    simp only [Raising.bind_eq_ok] at bridged
    obtain ⟨_, opened, first, _, passed, loop, last⟩ := bridged
    -- The direction fixes the sectors, and the range lists the stacks strictly between.
    rcases lt_or_gt_of_ne stack with up | down
    · simp only [if_pos up] at first loop last
      obtain ⟨chain, blocks, dummy⟩ := chain_effect (by omega) laneInside dstInside stack
        (by simp only [Python.mem_range_up]; omega)
        (by
          intro stack member
          simp only [List.mem_cons, Python.mem_range_up] at member
          exact registered stack (by omega) (by omega)) first loop last
      rw [carriers blocks dummy, carriers blocks dummy]
      exact ⟨sinkEntry, sourceExit, .inr (.inl ⟨up, chain⟩)⟩
    · simp only [if_neg (not_lt.mpr down.le)] at first loop last
      obtain ⟨chain, blocks, dummy⟩ := chain_effect (by omega) laneInside dstInside stack
        (by simp only [Python.mem_range_down]; omega)
        (by
          intro stack member
          simp only [List.mem_cons, Python.mem_range_down] at member
          exact registered stack (by omega) (by omega)) first loop last
      rw [carriers blocks dummy, carriers blocks dummy]
      exact ⟨sinkEntry, sourceExit, .inr (.inr ⟨down, chain⟩)⟩
  · rename_i stack
    have stack : src.stackId = dst.stackId := not_not.mp stack
    obtain ⟨sources, _, blocks, dummy⟩ := connectBpl_effect bridged
      (registered _ (by omega) (by omega))
    rw [carriers blocks dummy, carriers blocks dummy]
    refine ⟨sinkEntry, sourceExit, .inl ⟨stack, ?_⟩⟩
    rw [sources _ _ _ _ ⟨carrierInside, laneInside⟩, if_pos ⟨stack.symm, rfl, rfl, rfl⟩]

end Router

namespace Tracer

open Routing Router

/-- The tracer leaves a stack against the direction in which the router crossed it. -/
def Backward (toward entry exit : Int) : Prop :=
  -- Sector 8 is fed by the stack below, sector 7 by the stack above.
  (toward = -1 ∧ entry = 8 ∧ exit = 7) ∨ (toward = 1 ∧ entry = 7 ∧ exit = 8)

/-- At an entry sector the tracer goes on one stack further. -/
theorem traceBackplane_hop {r : Routing} {toward entry exit : Int}
    (backward : Backward toward entry exit) {tblockLane stack sector : Int}
    (source : r.bplSource stack (tblockLane / 8) sector (tblockLane % 8) = .ok (some entry))
    (fuel : Nat) :
    traceBackplane r tblockLane (fuel + 1) stack sector =
      traceBackplane r tblockLane fuel (stack + toward) exit := by
  -- The two directions differ in the sectors only.
  rcases backward with ⟨rfl, rfl, rfl⟩ | ⟨rfl, rfl, rfl⟩
  · simp only [traceBackplane, source, if_true]
    rfl
  · simp only [traceBackplane, source, if_true, if_neg (by omega : ¬ (7 : Int) = 8)]

/-- At a carrier the tracer stops. -/
theorem traceBackplane_stop {r : Routing} {tblockLane stack sector carrierId : Int}
    (inside : 0 ≤ carrierId ∧ carrierId < 7)
    (source : r.bplSource stack (tblockLane / 8) sector (tblockLane % 8) = .ok (some carrierId))
    (fuel : Nat) :
    traceBackplane r tblockLane (fuel + 1) stack sector = some (.ok (some (stack, carrierId))) := by
  -- Carriers are sectors below 7, so that neither hop is taken.
  simp only [traceBackplane, source, if_neg (by omega : ¬ carrierId = 8),
    if_neg (by omega : ¬ carrierId = 7)]

/-- Stack by stack the tracer comes to the carrier the signal left from. -/
theorem traceBackplane_walk {r : Routing} {toward entry exit : Int}
    (backward : Backward toward entry exit) {tblockLane carrierId : Int}
    (inside : 0 ≤ carrierId ∧ carrierId < 7) (distance : Nat) :
    ∀ (fuel : Nat) (stack : Int), distance < fuel →
      (∀ hop : Nat, hop < distance →
        r.bplSource (stack + hop * toward) (tblockLane / 8) exit (tblockLane % 8) =
          .ok (some entry)) →
      r.bplSource (stack + distance * toward) (tblockLane / 8) exit (tblockLane % 8) =
        .ok (some carrierId) →
      traceBackplane r tblockLane fuel stack exit =
        some (.ok (some (stack + distance * toward, carrierId))) := by
  -- The induction is on the number of stacks that still pass the signal on.
  induction distance with
  | zero =>
    intro fuel stack enough _ final
    obtain ⟨fuel, rfl⟩ := Nat.exists_eq_succ_of_ne_zero (Nat.ne_of_gt enough)
    simp only [Nat.cast_zero, Int.zero_mul, Int.add_zero] at final ⊢
    exact traceBackplane_stop inside final fuel
  | succ distance ih =>
    intro fuel stack enough hops final
    obtain ⟨fuel, rfl⟩ := Nat.exists_eq_succ_of_ne_zero (by omega : fuel ≠ 0)
    have here := hops 0 (by omega)
    simp only [Nat.cast_zero, Int.zero_mul, Int.add_zero] at here
    have further : ∀ hop : Nat, stack + toward + hop * toward = stack + (hop + 1 : Nat) * toward := by
      intro hop
      push_cast
      ring
    rw [traceBackplane_hop backward here, ih fuel (stack + toward) (by omega), further]
    · intro hop below
      rw [further]
      exact hops (hop + 1) (by omega)
    · rw [further]
      exact final

/-- A chain is traced from its sink to its source. -/
theorem traceBackplane_chain {r : Routing} {src dst : LaneLoc} {toward entry exit : Int}
    (backward : Backward toward entry exit) (srcCarrier : 0 ≤ src.carrierId ∧ src.carrierId < 7)
    {between : List Int}
    (chain : Chain r src dst ((dst.laneId - 8) / 8) (dst.laneId % 8) entry exit between)
    (distance : Nat) (apart : src.stackId = dst.stackId + (distance + 1 : Nat) * toward)
    (members : ∀ hop : Nat, hop < distance →
      dst.stackId + (hop + 1 : Nat) * toward ∈ between) {fuel : Nat} (enough : distance + 1 < fuel) :
    traceBackplane r (dst.laneId - 8) fuel dst.stackId dst.carrierId =
      some (.ok (some (src.stackId, src.carrierId))) := by
  -- The first hop leaves the stack of the sink, and the walk does the rest.
  have lane : (dst.laneId - 8) % 8 = dst.laneId % 8 := by omega
  have further : ∀ hop : Nat, dst.stackId + toward + hop * toward =
      dst.stackId + (hop + 1 : Nat) * toward := by
    intro hop
    push_cast
    ring
  obtain ⟨fuel, rfl⟩ := Nat.exists_eq_succ_of_ne_zero (by omega : fuel ≠ 0)
  rw [traceBackplane_hop backward (by rw [lane]; exact chain.last),
    traceBackplane_walk backward srcCarrier distance fuel _ (by omega), further, ← apart]
  · intro hop below
    rw [lane, further]
    exact chain.passed _ (members hop below)
  · rw [lane, further, ← apart]
    exact chain.first

/-- A lane fed over the backplane is traced to the carrier of its source, and there to its cluster. -/
theorem findCoef_bridged {r : Routing} {src dst : LaneLoc}
    (srcCarrier : 0 ≤ src.carrierId ∧ src.carrierId < 7)
    (srcCluster : 0 ≤ src.clusterId ∧ src.clusterId < 3) (apart : src.carrier ≠ dst.carrier)
    (switched : 8 ≤ dst.laneId ∧ src.laneId = dst.laneId)
    (sink : r.carrierSource dst.carrier (dst.clusterId + 1) (dst.laneId - 8) = .ok (some 0))
    (source : r.carrierSource src.carrier 0 (dst.laneId - 8) = .ok (some (src.clusterId + 1)))
    {fuel : Nat} (enough : 2 ≤ fuel)
    (bridge : traceBackplane r (dst.laneId - 8) fuel dst.stackId dst.carrierId =
      some (.ok (some (src.stackId, src.carrierId)))) :
    findCoef r fuel dst = some (.ok (some src)) := by
  -- One round leads over the backplane, the next one ends at the cluster.
  obtain ⟨fuel, rfl⟩ := Nat.exists_eq_add_of_le' enough
  have behind : ¬ dst.laneId < 8 := by omega
  -- The next location is one of another carrier.
  have unvisited : (⟨src.stackId, src.carrierId, 0, dst.laneId⟩ : LaneLoc) ∉
      [(⟨dst.stackId, dst.carrierId, dst.clusterId + 1, dst.laneId⟩ : LaneLoc)] := by
    simp only [List.mem_singleton, LaneLoc.mk.injEq, not_and]
    intro stack carrier
    exact absurd (by simp [LaneLoc.carrier, stack, carrier]) apart
  have first : findCoef r (fuel + 2) dst = traceFrom r (fuel + 1)
      [⟨dst.stackId, dst.carrierId, dst.clusterId + 1, dst.laneId⟩]
      ⟨src.stackId, src.carrierId, 0, dst.laneId⟩ := by
    have sink' : r.carrierSource (LaneLoc.carrier
        ⟨dst.stackId, dst.carrierId, dst.clusterId + 1, dst.laneId⟩) (dst.clusterId + 1)
        (dst.laneId - 8) = .ok (some 0) := sink
    have carrier : 0 ≤ src.carrierId ∧ src.carrierId ≤ 6 := by omega
    simp only [findCoef, if_neg behind]
    rw [traceFrom]
    simp [behind, sink', bridge, carrier]
  have source' : r.carrierSource (LaneLoc.carrier
      ⟨src.stackId, src.carrierId, 0, dst.laneId⟩) 0 (dst.laneId - 8) =
      .ok (some (src.clusterId + 1)) := source
  rw [first, traceFrom]
  simp only [if_neg behind, if_neg unvisited, source']
  rw [if_neg (by omega : ¬ ¬ (0 ≤ src.clusterId + 1 ∧ src.clusterId + 1 < 4)),
    if_pos (by omega : src.clusterId + 1 ≠ 0)]
  simp [← switched.2]

/-- A lane fed by a cluster of its own carrier is traced at once. -/
theorem findCoef_listening {r : Routing} {src dst : LaneLoc}
    (cluster : 0 ≤ src.clusterId ∧ src.clusterId < 3)
    (switched : 8 ≤ dst.laneId ∧ src.laneId = dst.laneId) (same : src.carrier = dst.carrier)
    (source : r.carrierSource dst.carrier (dst.clusterId + 1) (dst.laneId - 8) =
      .ok (some (src.clusterId + 1))) {fuel : Nat} (enough : 1 ≤ fuel) :
    findCoef r fuel dst = some (.ok (some src)) := by
  obtain ⟨fuel, rfl⟩ := Nat.exists_eq_add_of_le' enough
  have behind : ¬ dst.laneId < 8 := by omega
  simp only [LaneLoc.carrier, CarrierLoc.mk.injEq] at same
  have source' : r.carrierSource (LaneLoc.carrier
      ⟨dst.stackId, dst.carrierId, dst.clusterId + 1, dst.laneId⟩) (dst.clusterId + 1)
      (dst.laneId - 8) = .ok (some (src.clusterId + 1)) := source
  -- The T-block names a cluster, which is neither out of range nor the backplane.
  simp only [findCoef, traceFrom, if_neg behind, List.not_mem_nil, if_false, source']
  rw [if_neg (by omega : ¬ ¬ (0 ≤ src.clusterId + 1 ∧ src.clusterId + 1 < 4)),
    if_pos (by omega : src.clusterId + 1 ≠ 0)]
  simp [← same.1, ← same.2, ← switched.2]

/-- A bridge is traced from its sink to the carrier of its source. -/
theorem traceBackplane_bridge {r : Routing} {src dst : LaneLoc}
    (srcCarrier : 0 ≤ src.carrierId ∧ src.carrierId < 7) (bridge : Bridge r src dst) {fuel : Nat}
    (enough : (src.stackId - dst.stackId).natAbs + 2 ≤ fuel) :
    traceBackplane r (dst.laneId - 8) fuel dst.stackId dst.carrierId =
      some (.ok (some (src.stackId, src.carrierId))) := by
  have lane : (dst.laneId - 8) % 8 = dst.laneId % 8 := by omega
  rcases bridge with ⟨stack, entry⟩ | ⟨up, chain⟩ | ⟨down, chain⟩
  · obtain ⟨fuel, rfl⟩ := Nat.exists_eq_add_of_le' (by omega : 1 ≤ fuel)
    rw [traceBackplane_stop srcCarrier (by rw [lane]; exact entry), stack]
  · -- What was routed upwards is traced downwards.
    refine traceBackplane_chain (.inl ⟨rfl, rfl, rfl⟩) srcCarrier chain
      ((dst.stackId - src.stackId).toNat - 1) ?_ ?_ ?_
    · push_cast
      omega
    · intro hop below
      rw [Python.mem_range_up]
      push_cast
      omega
    · omega
  · refine traceBackplane_chain (.inr ⟨rfl, rfl, rfl⟩) srcCarrier chain
      ((src.stackId - dst.stackId).toNat - 1) ?_ ?_ ?_
    · push_cast
      omega
    · intro hop below
      rw [Python.mem_range_down]
      push_cast
      omega
    · omega

/--
The tracer finds the source of every lane the router connected.

The blocks may hold anything before the call; the fuel that is enough grows with the distance.
-/
theorem findCoef_route {r r' : Routing} {src dst : LaneLoc} (srcInside : src.InRange)
    (dstInside : dst.InRange) (covered : r.Covers src dst)
    (routed : route src dst r = .ok () r') :
    ∃ enough, ∀ fuel, enough ≤ fuel → findCoef r' fuel dst = some (.ok (some src)) := by
  by_cases same : src.carrier = dst.carrier
  · refine ⟨1, fun fuel enough => ?_⟩
    rcases route_inside srcInside covered same routed with ⟨direct, rfl⟩ | ⟨high, lane, source⟩
    · simp [findCoef, direct]
    · exact findCoef_listening srcInside.2.1 ⟨by omega, lane⟩ same source enough
  · have cluster : src.cluster ≠ dst.cluster := fun equal => same (LaneLoc.carrier_eq equal)
    have stacked : routeStack src dst r = .ok () r' := by
      simp only [route, if_neg cluster, if_neg same] at routed
      iterate 3
        split at routed
        · simp [Raising.bind_eq_ok, Raising.throw_ne_ok] at routed
      exact routed
    obtain ⟨switched, sink, source, bridge⟩ := routeStack_sources dstInside covered same stacked
    -- Two rounds on carriers, and one for each stack the signal passes.
    refine ⟨(src.stackId - dst.stackId).natAbs + 2, fun fuel enough => ?_⟩
    exact findCoef_bridged srcInside.1 srcInside.2.1 same switched sink source (by omega)
      (traceBackplane_bridge srcInside.1 bridge enough)

/-- A registry in which every block is present and new. -/
def registered : Routing where
  carrierTBlocks := fun _ => some .new
  bplTBlocks := fun _ _ => some .new
  dummy := .new
  bplDummy := .new

/-- A lane routed down over three stacks is traced back. -/
theorem findCoef_route_down :
    ∃ r' enough, route ⟨1, 2, 0, 20⟩ ⟨-2, 6, 1, 20⟩ registered = .ok () r' ∧
      ∀ fuel, enough ≤ fuel →
        findCoef r' fuel ⟨-2, 6, 1, 20⟩ = some (.ok (some ⟨1, 2, 0, 20⟩)) := by
  -- The route is computed, and everything else is the general theorem.
  have routed : ∃ r', route ⟨1, 2, 0, 20⟩ ⟨-2, 6, 1, 20⟩ registered = .ok () r' := ⟨_, rfl⟩
  obtain ⟨r', routed⟩ := routed
  obtain ⟨enough, found⟩ := findCoef_route (by simp [LaneLoc.InRange]) (by simp [LaneLoc.InRange])
    (by simp [Routing.Covers, registered]) routed
  exact ⟨r', enough, routed, found⟩

end Tracer

end Pybrid
