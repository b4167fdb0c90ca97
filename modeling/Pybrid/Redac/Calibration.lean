import Pybrid.Library.Fuel
import Pybrid.Redac.RouteEffect

/-! The dependency information of a computer after a route: it lists the routed signal. -/

namespace Pybrid

namespace Redac

/-- A sequence returns when its parts do. -/
theorem bind_eq_pure {α β : Type} {first : Fueled α} {second : α → Fueled β} {b : β} :
    first >>= second = pure b ↔ ∃ a, first = pure a ∧ second a = pure b := by
  -- A first part without enough fuel, or one that raises, does not return.
  match first with
  | none => exact ⟨nofun, fun ⟨_, impossible, _⟩ => nomatch impossible⟩
  | some (.error error) => exact ⟨nofun, fun ⟨_, impossible, _⟩ => nomatch impossible⟩
  | some (.ok a) =>
    constructor
    · exact fun returned => ⟨a, rfl, returned⟩
    · rintro ⟨a', same, returned⟩
      cases same
      exact returned

/-- A loop that returns has returned for each of its elements. -/
theorem mapM_eq_pure {α β : Type} {body : α → Fueled β} : ∀ {elements : List α} {values : List β},
    elements.mapM body = pure values → ∀ element ∈ elements, ∃ value, body element = pure value := by
  intro elements
  -- The loop has returned, and so has each of its rounds.
  induction elements with
  | nil => exact fun _ _ member => nomatch member
  | cons first later ih =>
    intro values returned element member
    rw [List.mapM_cons, bind_eq_pure] at returned
    obtain ⟨value, here, returned⟩ := returned
    obtain ⟨rest, behind, _⟩ := bind_eq_pure.mp returned
    rcases List.mem_cons.mp member with rfl | member
    · exact ⟨value, here⟩
    · exact ih behind element member

/-- A loop without a search raises or returns as the loop over its results does. -/
theorem mapM_mk {α β : Type} (body : α → Except PyError β) (elements : List α) :
    (elements.mapM fun element => ExceptT.mk (some (body element)) : Fueled (List β)) =
      ExceptT.mk (some (elements.mapM body)) := by
  -- Without fuel in its rounds a loop raises or returns like one without fuel.
  induction elements with
  | nil => rfl
  | cons first later ih =>
    rw [List.mapM_cons, List.mapM_cons, ih]
    cases body first with
    | error error => rfl
    | ok value => cases later.mapM body <;> rfl

/-- Carriers seen before keep their numbers. -/
theorem carrierIndex_of_mem {known : List CarrierLoc} {loc : CarrierLoc} (seen : loc ∈ known) :
    carrierIndex known loc = (known.idxOf loc, known) := by
  rw [carrierIndex, if_pos seen]

/-- Numbering goes on behind the carriers seen before. -/
theorem carrierIndex_append (known : List CarrierLoc) (loc : CarrierLoc) :
    known <+: (carrierIndex known loc).2 := by
  unfold carrierIndex
  -- A known location has its number, a new one gets the next.
  split
  · exact List.prefix_refl known
  · exact List.prefix_append known [loc]

/-- The numbers of carriers seen before are not changed by further ones. -/
theorem idxOf_append {known more : List CarrierLoc} (extended : known <+: more) {loc : CarrierLoc}
    (seen : loc ∈ known) : more.idxOf loc = known.idxOf loc := by
  obtain ⟨further, rfl⟩ := extended
  exact List.idxOf_append_of_mem seen

/-- The traces number carriers on. -/
theorem traces_append (signals : List Signal) : ∀ known : List CarrierLoc,
    known <+: (traces known signals).2 := by
  induction signals with
  | nil => exact fun known => List.prefix_refl known
  | cons signal later ih =>
    intro known
    -- Both ends of the signal may be new carriers, which are numbered at the end.
    exact ((carrierIndex_append known signal.source.carrier).trans
      (carrierIndex_append _ signal.sink.carrier)).trans (ih _)

/-- A signal between known carriers is listed with their numbers. -/
theorem mem_traces {signal : Signal} : ∀ {signals : List Signal} {known : List CarrierLoc},
    signal ∈ signals → signal.source.carrier ∈ known → signal.sink.carrier ∈ known →
    (⟨⟨known.idxOf signal.source.carrier, signal.source.clusterId, signal.source.laneId⟩,
      ⟨known.idxOf signal.sink.carrier, signal.sink.clusterId, signal.sink.laneId⟩,
      signal.upscaled⟩ : Wire.Trace) ∈ (traces known signals).1 := by
  intro signals
  induction signals with
  | nil => exact fun member => nomatch member
  | cons first later ih =>
    intro known member source sink
    rcases List.mem_cons.mp member with rfl | member
    · simp only [traces, traceLane, carrierIndex_of_mem source, carrierIndex_of_mem sink]
      exact List.mem_cons_self
    · -- Behind the first signal more carriers may be known, under further numbers.
      have extended := (carrierIndex_append known first.source.carrier).trans
        (carrierIndex_append _ first.sink.carrier)
      have listed := ih member (extended.subset source) (extended.subset sink)
      rw [idxOf_append extended source, idxOf_append extended sink] at listed
      exact List.mem_cons_of_mem _ listed

end Redac

namespace Computer

open Redac

/-- Carriers at different locations are numbered in their order. -/
theorem numberCarriers_eq {sorted : List (CarrierLoc × CarrierObject)}
    (distinct : (sorted.map (·.1)).Nodup) : numberCarriers sorted = sorted.map (·.1) := by
  -- The induction is on the carriers still to be numbered, behind those already known.
  have general : ∀ (later : List (CarrierLoc × CarrierObject)) (known : List CarrierLoc),
      (known ++ later.map (·.1)).Nodup →
      later.foldl (fun known located => (carrierIndex known located.1).2) known =
        known ++ later.map (·.1) := by
    intro later
    induction later with
    | nil => exact fun known _ => by simp
    | cons first later ih =>
      intro known distinct
      -- Locations are distinct, so that each carrier gets the next number.
      have new : first.1 ∉ known := by
        intro seen
        exact List.disjoint_of_nodup_append distinct seen (by simp)
      rw [List.foldl_cons, carrierIndex, if_neg new, ih _ (by simpa using distinct)]
      simp
  unfold numberCarriers
  simpa using general sorted [] (by simpa using distinct)

/--
The end of a trace stands for this lane.

Its carrier is the one with that number in the order of locations, and is named by its path.
-/
def Names (computer : Computer) (info : Wire.DependencyInfo) (lane : Wire.TraceLane)
    (loc : LaneLoc) : Prop :=
  lane.cluster = loc.clusterId ∧ lane.lane = loc.laneId ∧
    ∃ sorted carrier, computer.sortedCarriers = .ok sorted ∧
      sorted[lane.carrier]? = some (loc.carrier, carrier) ∧
      info.entityIds[lane.carrier]? = some carrier.path

/-- The dependency information lists a trace from one lane to another. -/
def Lists (computer : Computer) (items : List Wire.Item) (srcLane sinkLane : LaneLoc) : Prop :=
  ∃ item ∈ items, ∃ info, item.kind = some (.dependencyInfo info) ∧ ∃ trace ∈ info.traces,
    computer.Names info trace.source srcLane ∧ computer.Names info trace.sink sinkLane

/-- What the search for the signal of a lane has found out when it returned. -/
theorem sinkSignal_returned {computer : Computer} {tracer : Routing} {fuel : ℕ}
    {cluster : ClusterObject} {lane : Fin 32} {value : Option Signal}
    (returned : computer.sinkSignal tracer fuel cluster lane = pure value) :
    ∃ loc found, cluster.location = some loc ∧
      Tracer.findCoef tracer fuel ⟨loc.stackId, loc.carrierId, loc.clusterId, lane.val⟩ =
        some (.ok found) ∧
      ∀ source, found = some source → cluster.iblock.sums lane.val = true →
        (∃ place, computer.locate source.cluster = .ok place) ∧
          ∃ selected, Python.subscript 32 source.laneId = .ok selected := by
  unfold sinkSignal at returned
  obtain ⟨loc, located, returned⟩ := bind_eq_pure.mp returned
  obtain ⟨found, traced, returned⟩ := bind_eq_pure.mp returned
  -- Every step that could have raised has returned.
  refine ⟨loc, found, ?_, traced, ?_⟩
  · cases present : cluster.location with
    | none => rw [present] at located; cases located
    | some here => rw [present] at located; cases located; rfl
  · rintro source rfl summed
    simp only [summed, not_true_eq_false, if_false] at returned
    obtain ⟨place, placed, returned⟩ := bind_eq_pure.mp returned
    obtain ⟨selected, position, _⟩ := bind_eq_pure.mp returned
    exact ⟨⟨place, Option.some.inj placed⟩, selected, Option.some.inj position⟩

/-- The search for the signal of a lane returns if the source is found and can be looked up. -/
theorem sinkSignal_settles {computer : Computer} {tracer : Routing} {cluster : ClusterObject}
    {lane : Fin 32} {loc : ClusterLoc} (located : cluster.location = some loc)
    {found : Option LaneLoc} (finds : Tracer.Finds (fun fuel => Tracer.findCoef tracer fuel
      ⟨loc.stackId, loc.carrierId, loc.clusterId, lane.val⟩) found)
    (present : ∀ source, found = some source → cluster.iblock.sums lane.val = true →
      (∃ place, computer.locate source.cluster = .ok place) ∧
        ∃ selected, Python.subscript 32 source.laneId = .ok selected) :
    ∃ value, Fuel.Settles (fun fuel => computer.sinkSignal tracer fuel cluster lane) value := by
  obtain ⟨enough, returns⟩ := finds
  -- If nothing arrives at the lane, there is nothing more to look up.
  cases found with
  | none =>
    refine ⟨none, enough, fun fuel bound => ?_⟩
    simp only [sinkSignal, located, requireLoc, returned, pure_bind, returns fuel bound]
  | some source =>
    -- A lane that no output sums is not followed any further.
    by_cases summed : cluster.iblock.sums lane.val = true
    · obtain ⟨⟨place, placed⟩, selected, position⟩ := present source rfl summed
      refine ⟨if (computer.cluster? place).bind (fun cluster => cluster.ublock.outputs.get selected) =
          some (-1) ∨ (computer.cluster? place).bind
            (fun cluster => cluster.ublock.outputs.get selected) = none then none
        else some ⟨source, ⟨loc.stackId, loc.carrierId, loc.clusterId, lane.val⟩,
          cluster.iblock.upscaling.get lane⟩, enough, fun fuel bound => ?_⟩
      simp only [sinkSignal, located, requireLoc, returned, pure_bind, returns fuel bound, summed,
        not_true_eq_false, if_false, placed, position]
      split <;> rfl
    · refine ⟨none, enough, fun fuel bound => ?_⟩
      simp only [sinkSignal, located, requireLoc, returned, pure_bind, returns fuel bound, summed]
      rfl

/-- A lane that is summed and traced to a lane with an input has a signal. -/
theorem sinkSignal_settles_some {computer : Computer} {tracer : Routing} {cluster : ClusterObject}
    {lane : Fin 32} {loc : ClusterLoc} (located : cluster.location = some loc) {source : LaneLoc}
    (finds : Tracer.Finds (fun fuel => Tracer.findCoef tracer fuel
      ⟨loc.stackId, loc.carrierId, loc.clusterId, lane.val⟩) (some source))
    (summed : cluster.iblock.sums lane.val = true) {feeding : ClusterObject} {selected : Fin 32}
    {input : Int} (placed : computer.clusterAt source.cluster = some feeding)
    (position : Python.subscript 32 source.laneId = .ok selected)
    (carries : feeding.ublock.outputs.get selected = some input) (enabled : input ≠ -1) :
    Fuel.Settles (fun fuel => computer.sinkSignal tracer fuel cluster lane)
      (some ⟨source, ⟨loc.stackId, loc.carrierId, loc.clusterId, lane.val⟩,
        cluster.iblock.upscaling.get lane⟩) := by
  obtain ⟨enough, returns⟩ := finds
  refine ⟨enough, fun fuel bound => ?_⟩
  unfold clusterAt at placed
  -- The cluster of the source was found, so that its input can be read.
  cases place : computer.locate source.cluster with
  | error error => simp [place] at placed
  | ok spot =>
    simp only [place] at placed
    simp only [sinkSignal, located, requireLoc, returned, pure_bind, returns fuel bound, summed,
      not_true_eq_false, if_false, place, position, placed, Option.bind_some, carries,
      Option.some.injEq, enabled, reduceCtorEq, or_self]

/-- The carriers of a computer, registered and in order, with the tables as the tracer sees them. -/
structure Ordered (computer : Computer) (sorted : List (CarrierLoc × CarrierObject)) : Prop where
  sorts : computer.sortedCarriers = .ok sorted
  permuted : (sorted.map (·.2)).Perm computer.carriers
  placed : ∀ place ∈ sorted, place.2.location = some place.1

/-- The dependency information is read off the tables behind the registration. -/
theorem serialize_registered {computer : Computer}
    (located : ∀ carrier ∈ computer.carriers, ∃ loc, carrier.location = some loc)
    (blocks : ∀ carrier ∈ computer.carriers, carrier.Located)
    (functional : Functional computer.entries) :
    ∃ sorted, computer.Ordered sorted ∧ ∀ fuel m, (computer.serializeDependencyInfo fuel m).1 =
      (computer.dependencyInfo sorted (m.registerAll computer.entries).view fuel).run := by
  obtain ⟨sorted, sorts, permuted, placed, registers⟩ := registerCarriers_ok located blocks
  refine ⟨sorted, ⟨sorts, permuted, placed⟩, fun fuel m => ?_⟩
  -- Sorting changes the order of the entries, which does not matter as each key has one block.
  have same : ∀ entry, entry ∈ computer.entries ↔ entry ∈ sorted.flatMap (·.2.entries) := by
    intro entry
    have listed : sorted.flatMap (·.2.entries) = (sorted.map (·.2)).flatMap (·.entries) := by
      rw [List.flatMap_map]
    rw [listed]
    exact ((permuted.flatMap_right _).mem_iff).symm
  simp only [serializeDependencyInfo, registers m, registerAll_perm functional same m]

/-- The locations of the carriers in order are different if those of the carriers are. -/
theorem Ordered.nodup {computer : Computer} {sorted : List (CarrierLoc × CarrierObject)}
    (ordered : computer.Ordered sorted) (distinct : (computer.carriers.map (·.location)).Nodup) :
    (sorted.map (·.1)).Nodup := by
  -- The pairs carry the locations of their carriers.
  have same : (sorted.map (·.1)).map some = (sorted.map (·.2)).map (·.location) := by
    rw [List.map_map, List.map_map]
    exact List.map_congr_left fun place member => (ordered.placed place member).symm
  have unique : ((sorted.map (·.1)).map some).Nodup := by
    rw [same]
    exact ((ordered.permuted.map _).nodup_iff).mpr distinct
  exact List.Nodup.of_map some unique

/-- A carrier of the computer is among those in order. -/
theorem Ordered.mem {computer : Computer} {sorted : List (CarrierLoc × CarrierObject)}
    (ordered : computer.Ordered sorted) {carrier : CarrierObject} (member : carrier ∈ computer.carriers)
    {loc : CarrierLoc} (located : carrier.location = some loc) : (loc, carrier) ∈ sorted := by
  obtain ⟨place, inside, rfl⟩ := List.mem_map.mp (ordered.permuted.mem_iff.mpr member)
  -- The place that goes with the carrier is its location.
  have same := (ordered.placed place inside).symm.trans located
  obtain rfl := Option.some.inj same
  exact inside

/-- The number of a location is that of the carrier there, and of its path among the entities. -/
theorem Ordered.path_at {computer : Computer} {sorted : List (CarrierLoc × CarrierObject)}
    (ordered : computer.Ordered sorted) {loc : CarrierLoc} (known : loc ∈ sorted.map (·.1)) :
    ∃ carrier ∈ computer.carriers, carrier.location = some loc ∧
      sorted[(sorted.map (·.1)).idxOf loc]? = some (loc, carrier) ∧
      (sorted.map fun located => located.2.path)[(sorted.map (·.1)).idxOf loc]? =
        some carrier.path := by
  -- The number of a location is its position among the sorted ones.
  have bound := List.idxOf_lt_length_of_mem known
  have found := List.getElem_idxOf bound
  rw [List.length_map] at bound
  simp only [List.getElem_map] at found
  have inside := List.getElem_mem bound
  refine ⟨sorted[(sorted.map (·.1)).idxOf loc].2, ?_, ?_, ?_, ?_⟩
  · exact ordered.permuted.mem_iff.mp (List.mem_map_of_mem inside)
  · rw [ordered.placed _ inside, found]
  · rw [List.getElem?_eq_getElem bound]
    exact congrArg some (Prod.ext found rfl)
  · rw [List.getElem?_map, List.getElem?_eq_getElem bound]
    rfl

/-- The items that list these signals. -/
def dependencyItems (computer : Computer) (sorted : List (CarrierLoc × CarrierObject))
    (found : List Signal) : Except PyError (List Wire.Item) :=
  computer.carriers.mapM (dependencyItem (sorted.map fun located => located.2.path)
    (traces (numberCarriers sorted) found).2 (traces (numberCarriers sorted) found).1
    (activeLanes found))

/-- Every carrier has a location, so that its item is computed. -/
theorem Ordered.items {computer : Computer} {sorted : List (CarrierLoc × CarrierObject)}
    (ordered : computer.Ordered sorted) (found : List Signal) :
    ∃ items, computer.dependencyItems sorted found = .ok items := by
  refine Raising.mapM_ok fun carrier inside => ?_
  -- Each carrier that is sorted has a location, so that it can be written.
  obtain ⟨place, here, rfl⟩ := List.mem_map.mp (ordered.permuted.mem_iff.mpr inside)
  exact ⟨_, by rw [dependencyItem, ordered.placed place here]; rfl⟩

/-- The dependency information is made of the signals that were found. -/
theorem dependencyInfo_of_signals {computer : Computer}
    {sorted : List (CarrierLoc × CarrierObject)} {tracer : Routing} {fuel : ℕ} {found : List Signal}
    (signals : computer.signals tracer fuel = pure found) {items : List Wire.Item}
    (collected : computer.dependencyItems sorted found = .ok items) :
    computer.dependencyInfo sorted tracer fuel = pure items := by
  unfold dependencyInfo
  rw [signals, pure_bind]
  show computer.carriers.mapM (fun carrier => ExceptT.mk (some (dependencyItem _ _ _ _ carrier))) = _
  -- The items are made without any more fuel.
  rw [mapM_mk]
  exact congrArg (fun result => ExceptT.mk (some result)) collected

/-- A signal between carriers of the computer is listed. -/
theorem Ordered.lists {computer : Computer} {sorted : List (CarrierLoc × CarrierObject)}
    (ordered : computer.Ordered sorted) (distinct : (computer.carriers.map (·.location)).Nodup)
    {found : List Signal} {signal : Signal} (listed : signal ∈ found)
    (source : ∃ carrier ∈ computer.carriers, carrier.location = some signal.source.carrier)
    (target : ∃ carrier ∈ computer.carriers, carrier.location = some signal.sink.carrier)
    {items : List Wire.Item} (collected : computer.dependencyItems sorted found = .ok items) :
    computer.Lists items signal.source signal.sink := by
  -- All carriers are known before the signals are traced.
  have numbers := numberCarriers_eq (ordered.nodup distinct)
  have known : ∀ loc, (∃ carrier ∈ computer.carriers, carrier.location = some loc) →
      loc ∈ sorted.map (·.1) := by
    rintro loc ⟨carrier, inside, located⟩
    exact List.mem_map_of_mem (f := (·.1)) (ordered.mem inside located)
  have traced := mem_traces listed (known _ source) (known _ target)
  have extended := traces_append found (sorted.map (·.1))
  have sinkKnown := known _ target
  obtain ⟨carrier, inside, located⟩ := target
  obtain ⟨item, itemListed, computed⟩ :=
    Raising.forall₂_target (Raising.mapM_eq_ok.mp collected) inside
  -- The carrier of the sink is told the traces it is an end of.
  rw [dependencyItem, located, numbers] at computed
  simp only [requireLoc, Except.map, Except.ok.injEq,
    carrierIndex_of_mem (extended.subset sinkKnown), idxOf_append extended sinkKnown] at computed
  subst computed
  have names : ∀ loc ∈ sorted.map (·.1), ∃ pairs carrier, computer.sortedCarriers = .ok pairs ∧
      pairs[(sorted.map (·.1)).idxOf loc]? = some (loc, carrier) ∧
      (sorted.map fun located => located.2.path)[(sorted.map (·.1)).idxOf loc]? =
        some carrier.path := by
    intro loc inside
    obtain ⟨carrier, _, _, numbered, path⟩ := ordered.path_at inside
    exact ⟨sorted, carrier, ordered.sorts, numbered, path⟩
  refine ⟨_, itemListed, _, rfl, _, List.mem_filter.mpr ⟨traced, by simp⟩, ?_, ?_⟩
  · exact ⟨rfl, rfl, names _ (known _ source)⟩
  · exact ⟨rfl, rfl, names _ sinkKnown⟩

/-- Without signals no trace is listed. -/
theorem not_lists_nil {computer : Computer} {sorted : List (CarrierLoc × CarrierObject)}
    {items : List Wire.Item} (collected : computer.dependencyItems sorted [] = .ok items)
    (srcLane sinkLane : LaneLoc) : ¬ computer.Lists items srcLane sinkLane := by
  rintro ⟨item, listed, info, kind, trace, member, _⟩
  -- Every item comes from a carrier, and its traces from the signals, of which there are none.
  obtain ⟨carrier, _, computed⟩ := Raising.forall₂_source (Raising.mapM_eq_ok.mp collected) listed
  unfold dependencyItem at computed
  obtain ⟨loc, _, rfl⟩ := map_eq_ok computed
  simp only [Option.some.injEq, Wire.Payload.dependencyInfo.injEq] at kind
  subst kind
  simp [traces] at member

/-- The dependency information lists a signal that is found at one of the sinks. -/
theorem dependencyInfo_lists {computer : Computer} {sorted : List (CarrierLoc × CarrierObject)}
    (ordered : computer.Ordered sorted) (distinct : (computer.carriers.map (·.location)).Nodup)
    {tracer : Routing} (each : ∀ place ∈ computer.sinks, ∃ value,
      Fuel.Settles (fun fuel => computer.sinkSignal tracer fuel place.1 place.2) value)
    {signal : Signal} {sink : ClusterObject × Fin 32} (member : sink ∈ computer.sinks)
    (signals : Fuel.Settles (fun fuel => computer.sinkSignal tracer fuel sink.1 sink.2) (some signal))
    (source : ∃ carrier ∈ computer.carriers, carrier.location = some signal.source.carrier)
    (target : ∃ carrier ∈ computer.carriers, carrier.location = some signal.sink.carrier) :
    ∃ items, Fuel.Settles (computer.dependencyInfo sorted tracer) items ∧
      computer.Lists items signal.source signal.sink := by
  -- One value for each sink, which is the signal at the sink it was found at.
  have values : ∀ place ∈ computer.sinks, ∃ value, Fuel.Settles
      (fun fuel => computer.sinkSignal tracer fuel place.1 place.2) value ∧
        (place = sink → value = some signal) := by
    intro place inside
    by_cases same : place = sink
    · subst same
      exact ⟨_, signals, fun _ => rfl⟩
    · obtain ⟨value, settled⟩ := each place inside
      exact ⟨value, settled, fun equal => absurd equal same⟩
  choose! value settled chosen using values
  have searched := Fuel.mapM_settles_map computer.sinks settled
  have found : Fuel.Settles (computer.signals tracer) (computer.sinks.map value).reduceOption :=
    searched.bind (Fuel.settles_pure _)
  have listed : signal ∈ (computer.sinks.map value).reduceOption := by
    rw [List.reduceOption_mem_iff, List.mem_map]
    exact ⟨sink, member, chosen sink member rfl⟩
  obtain ⟨items, collected⟩ := ordered.items (computer.sinks.map value).reduceOption
  obtain ⟨enough, settles⟩ := found
  exact ⟨items, ⟨enough, fun fuel bound => dependencyInfo_of_signals (settles fuel bound) collected⟩,
    ordered.lists distinct listed source target collected⟩

/-- The cluster found at a location is located there. -/
theorem Assembled.cluster_located {computer : Computer} (assembled : computer.Assembled)
    {loc : ClusterLoc} (front : 0 ≤ loc.clusterId) {place : ℕ × ℕ}
    (found : computer.locate loc = .ok place) {cluster : ClusterObject}
    (here : computer.cluster? place = some cluster) :
    cluster.location = some loc ∧ ∃ carrier ∈ computer.carriers,
      carrier.location = some ⟨loc.stackId, loc.carrierId⟩ := by
  unfold locate at found
  split at found
  swap
  · cases found
  rename_i position first
  obtain ⟨number, subscripted, rfl⟩ := map_eq_ok found
  obtain ⟨bound, located, _⟩ := List.findIdx?_eq_some_iff_getElem.mp first
  obtain ⟨carrier, there, inside⟩ := Option.bind_eq_some_iff.mp here
  obtain rfl : carrier = computer.carriers[position] := by
    rw [List.getElem?_eq_getElem bound] at there
    exact (Option.some.inj there).symm
  have place : (computer.carriers[position]).location = some ⟨loc.stackId, loc.carrierId⟩ := by
    simpa using located
  have member : computer.carriers[position] ∈ computer.carriers := List.getElem_mem bound
  refine ⟨?_, _, member, place⟩
  -- The subscript is one from the front, so it is the number of the cluster.
  have front' : (number.val : Int) = loc.clusterId := by
    unfold Python.subscript at subscripted
    split at subscripted
    · cases subscripted
      simp only
      omega
    · split at subscripted
      · omega
      · cases subscripted
  have listed : ((computer.carriers[position]).clusters.map (·.location))[number.val]? =
      some cluster.location := by
    rw [List.getElem?_map, inside]
    rfl
  rw [assembled.clusters _ member _ place] at listed
  have three : number.val = 0 ∨ number.val = 1 ∨ number.val = 2 := by
    have := (List.getElem?_eq_some_iff.mp listed).1
    simp only [List.length_cons, List.length_nil] at this
    omega
  rcases three with zero | one | two
  · rw [zero] at listed front'
    rw [← Option.some.inj listed, ← show loc.clusterId = 0 from by omega]
  · rw [one] at listed front'
    rw [← Option.some.inj listed, ← show loc.clusterId = 1 from by omega]
  · rw [two] at listed front'
    rw [← Option.some.inj listed, ← show loc.clusterId = 2 from by omega]

/-- A cluster at a location is one at the place found there. -/
theorem clusterAt_eq_some {computer : Computer} {loc : ClusterLoc} {cluster : ClusterObject}
    (found : computer.clusterAt loc = some cluster) :
    ∃ place, computer.locate loc = .ok place ∧ computer.cluster? place = some cluster := by
  unfold clusterAt at found
  -- A location that is not found gives no cluster.
  split at found
  · exact ⟨_, ‹_›, found⟩
  · cases found

/-- A cluster found after a route is located where it was looked for, on one of the carriers. -/
theorem Effect.cluster_located {computer computer' : Computer} (assembled : computer.Assembled)
    {sinkLane : LaneLoc} (effect : Effect computer computer' sinkLane) {loc : ClusterLoc}
    (front : 0 ≤ loc.clusterId) {place : ℕ × ℕ} (found : computer'.locate loc = .ok place)
    {cluster : ClusterObject} (here : computer'.cluster? place = some cluster) :
    cluster.location = some loc ∧ ∃ carrier ∈ computer'.carriers,
      carrier.location = some ⟨loc.stackId, loc.carrierId⟩ := by
  -- The cluster is at the place of an earlier one, with the same location.
  obtain ⟨earlier, was, location, _⟩ := effect.others place cluster here
  have looked := (locate_frame effect.frame loc).symm.trans found
  obtain ⟨own, carrier, member, located⟩ := assembled.cluster_located front looked was
  obtain ⟨later, inside, alike⟩ := exists_of_frame effect.frame.symm member
  exact ⟨location.trans own, later, inside, (congrArg (·.1.location) alike).trans located⟩

end Computer

end Pybrid
