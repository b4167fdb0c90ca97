import Pybrid.Redac.DependencyInfo

/-! A route of a computer is visible to calibration, exactly if all its lanes can be traced. -/

namespace Pybrid

namespace Computer

open Redac

/-- A search finds one thing. -/
theorem finds_unique {β : Type} {search : ℕ → Option (Except PyError β)} {a b : β}
    (first : Tracer.Finds search a) (second : Tracer.Finds search b) : a = b := by
  obtain ⟨enough, returns⟩ := first
  obtain ⟨more, returns'⟩ := second
  -- With the larger of the two bounds both searches return.
  have same := (returns (max enough more) (le_max_left _ _)).symm.trans
    (returns' (max enough more) (le_max_right _ _))
  simpa using same

/-- What a search has found once, it finds from then on. -/
theorem finds_of_findCoef {tracer : Routing} {fuel : ℕ} {loc : LaneLoc} {found : Option LaneLoc}
    (traced : Tracer.findCoef tracer fuel loc = some (.ok found)) :
    Tracer.Finds (fun fuel => Tracer.findCoef tracer fuel loc) found := by
  refine ⟨fuel, fun more bound => ?_⟩
  unfold Tracer.findCoef at traced ⊢
  split
  · -- A lane that bypasses the T-blocks needs no fuel.
    rw [if_pos ‹_›] at traced
    exact traced
  · rw [if_neg ‹_›] at traced
    exact Tracer.traceFrom_more bound traced

/-- The lane of a sink that was routed to exists. -/
theorem refusal_lane {src dst : LaneLoc} (admitted : Router.refusal src dst = none) :
    dst.laneId < 32 := by
  by_contra outside
  simp only [Router.refusal] at admitted
  -- Every other way out of the checks is an error.
  split_ifs at admitted
  all_goals omega

/--
The lanes of all clusters can be followed to where they come from.

A lane that is summed, or that the route leads to, comes from a cluster of the computer.
-/
def Traceable (computer : Computer) (tracer : Routing) (sinkLane : LaneLoc) : Prop :=
  ∀ place cluster loc, computer.cluster? place = some cluster → cluster.location = some loc →
    ∀ lane : Fin 32, ∃ fuel found,
      Tracer.findCoef tracer fuel (loc.lane lane) = some (.ok found) ∧
        ∀ source, found = some source →
          cluster.iblock.sums lane.val = true ∨ loc.lane lane = sinkLane →
            ∃ place, computer.locate source.cluster = .ok place

/-- The carriers and blocks of a computer are located after a route as before. -/
theorem Assembled.after {computer computer' : Computer} (assembled : computer.Assembled)
    (same : computer'.frame = computer.frame) :
    (∀ carrier ∈ computer'.carriers, ∃ loc, carrier.location = some loc) ∧
      (∀ carrier ∈ computer'.carriers, carrier.Located) ∧ Functional computer'.entries := by
  refine ⟨fun carrier member => ?_, fun carrier member => ?_, ?_⟩
  -- A route changes what the blocks hold, not where they are.
  · obtain ⟨before, inside, alike⟩ := exists_of_frame same member
    obtain ⟨loc, located⟩ := assembled.located before inside
    have equal := congrArg (·.1.location) alike
    exact ⟨loc, equal.symm.trans located⟩
  · obtain ⟨before, inside, alike⟩ := exists_of_frame same member
    have located := assembled.blocks before inside
    have blocks : before.tblock = carrier.tblock := congrArg (·.1.tblock) alike
    have planes : before.planes = carrier.planes := congrArg (·.1.planes) alike
    exact ⟨blocks ▸ located.tblock, planes ▸ located.planes⟩
  · rw [entries_frame same]
    exact assembled.functional

/-- The clusters of an assembled computer are located by their numbers, also after a route. -/
theorem Assembled.placed {computer computer' : Computer} (assembled : computer.Assembled)
    (same : computer'.frame = computer.frame) : computer'.Placed where
  distinct := by
    -- The locations of the carriers are part of the frame.
    have read : ∀ computer : Computer,
        computer.carriers.map (·.location) = computer.frame.map (·.1.location) := by
      intro computer
      rw [frame, List.map_map]
      rfl
    rw [read, same, ← read]
    exact assembled.distinct
  clusters := by
    intro carrier member number cluster there
    obtain ⟨before, inside, alike⟩ := exists_of_frame same member
    obtain ⟨loc, located⟩ := assembled.located before inside
    have numbered := assembled.clusters before inside loc located
    have location : before.location = carrier.location := congrArg (·.1.location) alike
    have clusters : before.clusters.map (·.location) = carrier.clusters.map (·.location) :=
      congrArg (·.2) alike
    have listed : (carrier.clusters.map (·.location))[number]? = some cluster.location := by
      rw [List.getElem?_map, there]
      rfl
    rw [← clusters, numbered] at listed
    rw [← location, located]
    -- There are three clusters, each with its own number.
    have three : number = 0 ∨ number = 1 ∨ number = 2 := by
      have bound := (List.getElem?_eq_some_iff.mp listed).1
      simp only [List.length_cons, List.length_nil] at bound
      omega
    rcases three with rfl | rfl | rfl <;> exact (Option.some.inj listed).symm

/-- The cluster at a place is found there by its location. -/
theorem Placed.locate_eq {computer : Computer} (placed : computer.Placed) {place : ℕ × ℕ}
    {cluster : ClusterObject} (here : computer.cluster? place = some cluster) {loc : ClusterLoc}
    (located : cluster.location = some loc) : computer.locate loc = .ok place := by
  obtain ⟨position, index⟩ := place
  obtain ⟨carrier, there, inside⟩ := Option.bind_eq_some_iff.mp here
  have member := List.mem_of_getElem? there
  have named := placed.clusters carrier member index cluster inside
  rw [located] at named
  obtain ⟨own, present, spelled⟩ := Option.map_eq_some_iff.mp named.symm
  subst spelled
  unfold locate
  rw [placed.findIdx? there present]
  -- The number of a cluster is a position from the front.
  have subscripts : ∀ length : ℕ, index < length →
      ((Python.subscript length (index : Int)).map fun number => (position, number.val)) =
        .ok (position, index) := by
    intro length short
    rw [Python.subscript_of_bounds (by omega)]
    simp [Except.map]
  exact subscripts _ (by
    rw [there]
    exact (List.getElem?_eq_some_iff.mp inside).1)

/-- The places with a cluster are the same after a route. -/
theorem exists_cluster_of_frame {computer computer' : Computer}
    (same : computer'.frame = computer.frame) {place : ℕ × ℕ} {cluster : ClusterObject}
    (here : computer.cluster? place = some cluster) :
    ∃ after, computer'.cluster? place = some after := by
  obtain ⟨position, index⟩ := place
  obtain ⟨carrier, there, inside⟩ := Option.bind_eq_some_iff.mp here
  have framed : computer'.frame[position]? = some (carrierFrame carrier) := by
    rw [same, frame, List.getElem?_map, there]
    rfl
  rw [frame, List.getElem?_map] at framed
  obtain ⟨carrier', there', alike⟩ := Option.map_eq_some_iff.mp framed
  -- Both carriers have as many clusters.
  have count : carrier'.clusters.length = carrier.clusters.length := by
    have clusters : carrier'.clusters.map (·.location) = carrier.clusters.map (·.location) :=
      congrArg (·.2) alike
    simpa using congrArg List.length clusters
  have bound := (List.getElem?_eq_some_iff.mp inside).1
  exact ⟨carrier'.clusters[index], by
    simp [cluster?, there', List.getElem?_eq_getElem (count ▸ bound)]⟩

/-- Every sink is searched to its end if all lanes can be traced. -/
theorem Effect.sinks_settle {computer computer' : Computer} (assembled : computer.Assembled)
    {sinkLane : LaneLoc} (effect : Effect computer computer' sinkLane)
    (front : 0 ≤ sinkLane.clusterId) {tracer : Routing}
    (traceable : computer.Traceable tracer sinkLane) :
    ∀ place ∈ computer'.sinks, ∃ value,
      Fuel.Settles (fun fuel => computer'.sinkSignal tracer fuel place.1 place.2) value := by
  rintro ⟨cluster, lane⟩ member
  obtain ⟨spot, here⟩ := mem_sinks.mp member
  obtain ⟨earlier, was, location, sums⟩ := effect.others spot cluster here
  -- The cluster has a location, as every cluster of the computer.
  obtain ⟨loc, located⟩ : ∃ loc, earlier.location = some loc := by
    obtain ⟨carrier, there, inside⟩ := Option.bind_eq_some_iff.mp was
    obtain ⟨own, present⟩ := assembled.located carrier (List.mem_of_getElem? there)
    have named := (assembled.placed rfl).clusters carrier (List.mem_of_getElem? there) _ _ inside
    exact ⟨_, named.trans (by rw [present]; rfl)⟩
  obtain ⟨fuel, found, traced, present⟩ := traceable spot earlier loc was located lane
  refine sinkSignal_settles (location.trans located) (finds_of_findCoef traced)
    fun source equal summed => ?_
  subst equal
  have own : earlier.iblock.sums lane.val = true ∨ loc.lane lane = sinkLane := by
    rcases (sums lane.val).mp summed with already | ⟨target, new⟩
    · exact .inl already
    · -- The one lane that is new is the sink of the route.
      have there := (assembled.cluster_located front target was).1
      obtain rfl := Option.some.inj (located.symm.trans there)
      exact .inr (by rw [ClusterLoc.lane, new]; rfl)
  obtain ⟨place, looked⟩ := present source rfl own
  -- The source has the number of the lane, which is a lane of its cluster.
  have number : source.laneId = lane.val := (Tracer.findCoef_source traced).1
  refine ⟨⟨place, (locate_frame effect.frame _).trans looked⟩, lane, ?_⟩
  rw [number, Python.subscript_of_bounds (by omega)]
  simp

/-- All lanes could be traced if the dependency information was serialized. -/
theorem Effect.traceable {computer computer' : Computer} (assembled : computer.Assembled)
    {sinkLane : LaneLoc} (effect : Effect computer computer' sinkLane) {tracer : Routing}
    {fuel : ℕ} {found : List Signal} (searched : computer'.signals tracer fuel = pure found) :
    computer.Traceable tracer sinkLane := by
  obtain ⟨values, each, _⟩ := bind_eq_pure.mp searched
  intro place cluster loc was located lane
  obtain ⟨after, here⟩ := exists_cluster_of_frame effect.frame was
  obtain ⟨before, was', location, sums⟩ := effect.others place after here
  obtain rfl := Option.some.inj (was.symm.trans was')
  obtain ⟨value, returned⟩ := mapM_eq_pure each (after, lane) (mem_sinks.mpr ⟨place, here⟩)
  obtain ⟨own, source, there, traced, present⟩ := sinkSignal_returned returned
  obtain rfl := Option.some.inj ((location.trans located).symm.trans there)
  refine ⟨fuel, source, traced, fun fed equal summed => ?_⟩
  -- What is summed afterwards was summed before, or is the sink of the route.
  have summed' : after.iblock.sums lane.val = true := by
    refine (sums lane.val).mpr (summed.imp_right fun same => ?_)
    subst same
    exact ⟨(assembled.placed rfl).locate_eq was located, rfl⟩
  obtain ⟨⟨place, looked⟩, _⟩ := present fed equal summed'
  exact ⟨place, (locate_frame effect.frame _).symm.trans looked⟩

/-- A listed trace is a signal that was found between these lanes. -/
theorem Placed.signal_of_lists {computer : Computer} (placed : computer.Placed)
    {sorted : List (CarrierLoc × CarrierObject)} (ordered : computer.Ordered sorted)
    {tracer : Routing} {fuel : ℕ} {items : List Wire.Item}
    (informed : computer.dependencyInfo sorted tracer fuel = pure items) {srcLane sinkLane : LaneLoc}
    (lists : computer.Lists items srcLane sinkLane) :
    ∃ found signal, computer.signals tracer fuel = pure found ∧ signal ∈ found ∧
      signal.source = srcLane ∧ signal.sink = sinkLane := by
  obtain ⟨found, searched, touched, each⟩ := placed.items_returned ordered informed
  obtain ⟨item, listed, info, kind, trace, member, source, sink⟩ := lists
  obtain ⟨carrier, _, loc, _, rfl⟩ := Raising.forall₂_source each listed
  simp only [Option.some.injEq, Wire.Payload.dependencyInfo.injEq] at kind
  subst kind
  obtain ⟨signal, inside, rfl⟩ := List.mem_map.mp member
  have inside := (List.mem_filter.mp inside).1
  -- The number of a carrier gives back its location.
  have named : ∀ (end_ loc : LaneLoc), signal.Touches end_.carrier →
      computer.Names ⟨sorted.map fun located => located.2.path,
        (found.filter fun signal => signal.Touches loc.carrier).map
          (traceOf (sorted.map (·.1)).idxOf), activeLanes found⟩
        ⟨(sorted.map (·.1)).idxOf end_.carrier, end_.clusterId, end_.laneId⟩ loc →
      end_ = loc := by
    rintro end_ loc touches ⟨cluster, lane, pairs, carrier, sorts, numbered, _⟩
    obtain rfl := Except.ok.inj (ordered.sorts.symm.trans sorts)
    obtain ⟨_, _, _, here, _⟩ := ordered.path_at (touched signal inside _ touches)
    have pair := Option.some.inj (here.symm.trans numbered)
    have carrier := (Prod.mk.inj pair).1
    obtain ⟨stack, number⟩ := CarrierLoc.mk.inj carrier
    cases end_
    cases loc
    simp only at stack number cluster lane
    rw [stack, number, cluster, lane]
  exact ⟨found, signal, searched, inside, named _ _ (.inl rfl) source, named _ _ (.inr rfl) sink⟩

/--
When a route of a computer is visible to calibration.

For every assembled computer, every content of the shared tables and every call of `route` that
returns, the blocks on the way being registered as the computer's own: the clusters carry what was
routed, and the dependency information is serialized and lists a trace from the source lane to the
sink lane, exactly if the input is not the one that stands for none, the numbers are not counted
from the end, and all lanes of the computer can be traced once the settings of the route are made.
-/
theorem route_calibrated_iff (computer : Computer) (assembled : computer.Assembled) (m : Memory)
    (srcMath : Int) (srcLane sinkLane : LaneLoc) (sinkMath : Int) (coefficient : Number)
    (own : computer.OwnsWay m srcLane sinkLane) (computer' : Computer) (m' : Memory)
    (returned : route srcMath srcLane sinkLane sinkMath coefficient (computer, m) =
      .ok () (computer', m')) :
    (computer'.Carries srcMath srcLane sinkLane sinkMath coefficient.rounded ∧
      ∃ items enough, (∀ fuel, enough ≤ fuel →
        (computer'.serializeDependencyInfo fuel m').1 = some (.ok items)) ∧
        computer'.Lists items srcLane sinkLane) ↔
      srcMath ≠ -1 ∧ 0 ≤ srcLane.clusterId ∧ 0 ≤ sinkLane.clusterId ∧ 0 ≤ sinkLane.laneId ∧
        computer.Traceable (computer.settled m srcLane sinkLane).view sinkLane := by
  obtain ⟨routed, effect, carries⟩ := route_returned returned
  obtain ⟨routable, settled, selected⟩ := own.settled assembled routed
  obtain ⟨located, blocks, functional⟩ := assembled.after effect.frame
  have placed := assembled.placed effect.frame
  obtain ⟨sorted, ordered, reads⟩ := serialize_registered located blocks functional
  rw [entries_frame effect.frame] at reads
  obtain ⟨feeding, place, sourceAt, position, carriesInput, _⟩ := carries.source
  constructor
  · -- The listed trace is a signal that was found, and it was found by tracing all lanes.
    rintro ⟨_, items, enough, returns, lists⟩
    have informed := returns enough le_rfl
    rw [reads, settled] at informed
    obtain ⟨found, signal, searched, member, rfl, rfl⟩ :=
      placed.signal_of_lists ordered informed lists
    obtain ⟨carrier, inside, cluster, there, lane, arrives⟩ :=
      ((placed.signals_returned searched).1 signal).mp member
    obtain ⟨loc, here, sink⟩ := Option.map_eq_some_iff.mp arrives.sink
    obtain ⟨_, number, count, _⟩ := placed.carrier inside there here
    obtain ⟨srcLoc, feeds, has, srcLane, input, source, fed, enabled⟩ := arrives.source
    obtain ⟨carrier', inside', there', here'⟩ := has
    obtain ⟨_, number', count', _⟩ := placed.carrier inside' there' here'
    have front : 0 ≤ signal.source.clusterId := by
      rw [source]
      simp only [ClusterLoc.lane, count']
      omega
    refine ⟨?_, front, ?_, ?_, effect.traceable assembled searched⟩
    · -- The cluster that feeds the lane is the one that carries the routed input.
      have same : computer'.clusterAt signal.source.cluster = some feeds := by
        refine (placed.clusterAt_iff front feeds).mpr ?_
        rw [source]
        exact ⟨carrier', inside', there', here'⟩
      obtain rfl := Option.some.inj (same.symm.trans sourceAt)
      have selects : srcLane = place := by
        rw [source] at position
        simp only [ClusterLoc.lane] at position
        rw [Python.subscript_of_bounds (by omega)] at position
        simpa using Except.ok.inj position
      subst selects
      rintro rfl
      exact enabled (Option.some.inj (fed.symm.trans carriesInput))
    · rw [← sink]
      simp only [ClusterLoc.lane, count]
      omega
    · rw [← sink]
      exact Int.natCast_nonneg _
  · -- All sinks are traced, and the one that was routed to has a signal.
    rintro ⟨enabled, source, sink, lane, traceable⟩
    refine ⟨carries, ?_⟩
    obtain ⟨target, output, sinkAt, _, member⟩ := carries.sink
    obtain ⟨spot, looked, there⟩ := clusterAt_eq_some sourceAt
    obtain ⟨spot', looked', here⟩ := clusterAt_eq_some sinkAt
    obtain ⟨_, sourceCarrier⟩ := effect.cluster_located assembled source looked there
    obtain ⟨sinkLocated, sinkCarrier⟩ := effect.cluster_located assembled sink looked' here
    have each := effect.sinks_settle assembled sink traceable
    have upper := refusal_lane routable.1
    have summed : target.iblock.sums sinkLane.laneId = true := sums_iff.mpr ⟨output, member⟩
    obtain ⟨index, number⟩ : ∃ index : Fin 32, (index.val : Int) = sinkLane.laneId :=
      ⟨⟨sinkLane.laneId.toNat, by omega⟩, by simp only; omega⟩
    have aimed : (⟨sinkLane.cluster.stackId, sinkLane.cluster.carrierId, sinkLane.cluster.clusterId,
        index.val⟩ : LaneLoc) = sinkLane := by rw [number]; rfl
    have traces := Router.traces_of_selected routable (fun _ => source) selected
    have signal := sinkSignal_settles_some sinkLocated (by rw [aimed]; exact traces)
      (number.symm ▸ summed) sourceAt position carriesInput enabled
    obtain ⟨items, ⟨enough, settles⟩, listed⟩ := dependencyInfo_lists ordered placed.distinct each
      (mem_sinks.mpr ⟨spot', here⟩) signal sourceCarrier (by rw [aimed]; exact sinkCarrier)
    refine ⟨items, enough, fun fuel bound => ?_, aimed ▸ listed⟩
    rw [reads, settled, settles fuel bound]
    rfl

/-- Where the dependency information was serialized before, all lanes stay traceable. -/
theorem Prepared.traceable {computer : Computer} (assembled : computer.Assembled) {m m' : Memory}
    {srcLane sinkLane : LaneLoc} (prepared : computer.Prepared m srcLane sinkLane)
    (cluster : 0 ≤ srcLane.clusterId) (routed : Memory.route srcLane sinkLane m = .ok () m')
    (sourcePlace : ∃ place, computer.locate srcLane.cluster = .ok place) :
    computer.Traceable (computer.settled m srcLane sinkLane).view sinkLane := by
  have rerouted := prepared.rerouted assembled cluster routed
  rw [(prepared.registered.settled assembled routed).2.1] at rerouted
  have traces := Router.traces_of_selected rerouted.routable (fun _ => rerouted.cluster)
    rerouted.selected
  -- What was serialized has searched every sink.
  obtain ⟨fuel, items, serialized⟩ := prepared.serialized
  obtain ⟨sorted, _, reads⟩ :=
    serialize_registered assembled.located assembled.blocks assembled.functional
  rw [reads] at serialized
  obtain ⟨found, searched, _⟩ := bind_eq_pure.mp serialized
  obtain ⟨values, each, _⟩ := bind_eq_pure.mp searched
  intro place before loc here located lane
  obtain ⟨value, returned⟩ := mapM_eq_pure each (before, lane) (mem_sinks.mpr ⟨place, here⟩)
  obtain ⟨own, source, there, traced, present⟩ := sinkSignal_returned returned
  obtain rfl := Option.some.inj (located.symm.trans there)
  rcases rerouted.findCoef traced with ⟨enough, same⟩ | ⟨enough, now⟩
  · -- The lane is traced to what it was traced to before.
    refine ⟨enough, source, same enough le_rfl, fun fed equal summed => ?_⟩
    rcases summed with already | rfl
    · exact (present fed equal already).1
    · obtain rfl := finds_unique ⟨enough, same⟩ traces
      obtain rfl := Option.some.inj equal
      exact sourcePlace
  · -- The lane is traced to the source of the route.
    refine ⟨enough, some srcLane, now enough le_rfl, fun fed equal _ => ?_⟩
    obtain rfl := Option.some.inj equal
    exact sourcePlace

/-- A computer of one carrier with all its blocks. -/
def solo : Computer where
  -- One carrier with three clusters, its own T-block and the planes of stack 0.
  carriers := [{
    path := []
    location := some ⟨0, 0⟩
    clusters := [⟨some ⟨0, 0, 0⟩, .new, .new, .new⟩, ⟨some ⟨0, 0, 1⟩, .new, .new, .new⟩,
      ⟨some ⟨0, 0, 2⟩, .new, .new, .new⟩]
    tblock := some ⟨0, some ⟨0, 0⟩⟩
    st0block := some ⟨0, some 0⟩
    st1block := some ⟨1, some 0⟩
    st2block := some ⟨2, some 0⟩ }]

/-- The entries of the computer of one carrier. -/
theorem solo_entries : solo.entries =
    [(.carrier ⟨0, 0⟩, 0), (.plane 0 0, 0), (.plane 0 1, 1), (.plane 0 2, 2)] := rfl

/-- The computer of one carrier is assembled. -/
theorem solo_assembled : solo.Assembled where
  located := by simp [solo]
  distinct := by simp [solo]
  clusters := by simp [solo]
  tblock := by simp [solo]
  planes := by
    simp only [solo, List.mem_singleton, forall_eq, Option.some.injEq]
    rintro _ rfl ⟨index, block⟩ member
    simp only [CarrierObject.planes, Option.toList_some, List.map_cons, List.map_nil,
      List.cons_append, List.nil_append, List.mem_cons, Prod.mk.injEq, List.not_mem_nil,
      or_false] at member
    -- The three planes have their own numbers.
    rcases member with ⟨_, rfl⟩ | ⟨_, rfl⟩ | ⟨_, rfl⟩ <;> rfl
  stacked := by
    simp only [solo, List.mem_singleton, forall_eq, Option.some.injEq]
    rintro _ _ stack rfl rfl low high
    exact ⟨_, rfl, ⟨_, rfl, by simp only at low high ⊢; omega⟩, rfl, rfl, rfl⟩
  together := by
    simp only [solo, List.mem_singleton]
    rintro _ rfl _ rfl
    simp
  objects := by
    rw [solo_entries]
    simp
  planeObjects := by
    rw [solo_entries]
    simp only [List.mem_cons, Prod.mk.injEq, BlockKey.plane.injEq, reduceCtorEq, false_and,
      List.not_mem_nil, or_false, false_or]
    omega

/-- The carrier of the computer was added, so that its blocks are registered. -/
def soloAdded : Memory := Memory.blank.registerAll solo.entries

set_option maxRecDepth 4000 in
/-- Before anything was routed there are no signals. -/
theorem solo_signals (fuel : ℕ) :
    solo.signals (soloAdded.registerAll solo.entries).view (fuel + 1) = pure [] := by
  rfl

/-- What is registered was registered. -/
theorem mem_of_soloAdded (key : BlockKey) {ref : ℕ} (found : soloAdded.entry key = some ref) :
    (key, ref) ∈ solo.entries := by
  -- Nothing was registered before.
  rcases Memory.registerAll_entry key solo.entries Memory.blank with
    ⟨other, member, last⟩ | ⟨_, kept⟩
  · obtain rfl := Option.some.inj (last.symm.trans found)
    exact member
  · have missing : Memory.blank.entry key = none := by cases key <;> rfl
    rw [soloAdded, kept, missing] at found
    cases found

/-- A computer whose carriers were added is prepared for routes on it. -/
theorem solo_prepared : solo.Prepared soloAdded ⟨0, 0, 0, 8⟩ ⟨0, 0, 1, 8⟩ where
  registered := by
    intro setting member
    -- The way between two neighbouring clusters sets one multiplexer.
    obtain rfl : setting = (.carrier ⟨0, 0⟩ 2 0, 1) := List.mem_singleton.mp member
    exact ⟨0, by rw [solo_entries]; exact List.mem_cons_self, rfl⟩
  single := by
    constructor
    · intro loc other ref here there
      exact solo_assembled.objects loc other ref (mem_of_soloAdded (.carrier loc) here)
        (mem_of_soloAdded (.carrier other) there)
    · rintro ⟨stack, index⟩ ⟨stack', index'⟩ ref here there
      obtain ⟨rfl, rfl⟩ := solo_assembled.planeObjects stack index stack' index' ref
        (mem_of_soloAdded (.plane stack index) here)
        (mem_of_soloAdded (.plane stack' index') there)
      rfl
  own := fun loc ref member other found =>
    solo_assembled.objects other loc ref (mem_of_soloAdded (.carrier other) found) member
  ownPlanes := by
    rintro stack index ref member ⟨stack', index'⟩ found
    obtain ⟨rfl, rfl⟩ := solo_assembled.planeObjects stack' index' stack index ref
      (mem_of_soloAdded (.plane stack' index') found) member
    rfl
  serialized := by
    obtain ⟨sorted, ordered, reads⟩ := serialize_registered solo_assembled.located
      solo_assembled.blocks solo_assembled.functional
    obtain ⟨items, collected⟩ := ordered.items []
    refine ⟨1, items, ?_⟩
    rw [reads, dependencyInfo_of_signals (solo_signals 0) collected]
    rfl

/-- The coefficient 1.0. -/
def whole : Number := .float .one

theorem route_calibrated_solo :
    let after := Raising.final (route 0 ⟨0, 0, 0, 8⟩ ⟨0, 0, 1, 8⟩ 0 whole (solo, soloAdded))
    after.1.Carries 0 ⟨0, 0, 0, 8⟩ ⟨0, 0, 1, 8⟩ 0 whole.rounded ∧
      ∃ items enough, (∀ fuel, enough ≤ fuel →
        (after.1.serializeDependencyInfo fuel after.2).1 = some (.ok items)) ∧
        after.1.Lists items ⟨0, 0, 0, 8⟩ ⟨0, 0, 1, 8⟩ :=
  -- All blocks of the computer are registered, so that every sink can be traced.
  (route_calibrated_iff solo solo_assembled soloAdded 0 ⟨0, 0, 0, 8⟩ ⟨0, 0, 1, 8⟩ 0 whole
    solo_prepared.registered _ _ rfl).mpr
    ⟨by decide, by decide, by decide, by decide,
      solo_prepared.traceable solo_assembled (by decide) rfl ⟨(0, 0), rfl⟩⟩

/-- The computer of one carrier and the tables, after a route that found no block registered. -/
def constructedRouted : Computer × Memory :=
  Raising.final (route 0 ⟨0, 0, 0, 8⟩ ⟨0, 0, 1, 8⟩ 0 whole (solo, Memory.blank))

set_option maxRecDepth 4000 in
/-- The T-block of the carrier was not changed, so that the sink still listens to itself. -/
theorem constructedRouted_signals (fuel : ℕ) :
    constructedRouted.1.signals (constructedRouted.2.registerAll constructedRouted.1.entries).view
      (fuel + 1) = pure [] := by
  rfl

/-- A route on a computer built by the constructor goes to the stand-in and is not listed. -/
theorem constructed_route_unlisted : solo.Assembled ∧
    route 0 ⟨0, 0, 0, 8⟩ ⟨0, 0, 1, 8⟩ 0 whole (solo, Memory.blank) = .ok () constructedRouted ∧
      ∃ items, (∀ fuel, (constructedRouted.1.serializeDependencyInfo (fuel + 1)
          constructedRouted.2).1 = some (.ok items)) ∧
        ¬ constructedRouted.1.Lists items ⟨0, 0, 0, 8⟩ ⟨0, 0, 1, 8⟩ := by
  have returned : route 0 ⟨0, 0, 0, 8⟩ ⟨0, 0, 1, 8⟩ 0 whole (solo, Memory.blank) =
      .ok () (constructedRouted.1, constructedRouted.2) := rfl
  -- Without registration the route sets the stand-in, which the serializer replaces.
  obtain ⟨_, effect, _⟩ := route_returned returned
  obtain ⟨located, blocks, functional⟩ := solo_assembled.after effect.frame
  obtain ⟨sorted, ordered, reads⟩ := serialize_registered located blocks functional
  obtain ⟨items, collected⟩ := ordered.items []
  refine ⟨solo_assembled, returned, items, fun fuel => ?_, not_lists_nil collected _ _⟩
  rw [reads, dependencyInfo_of_signals (constructedRouted_signals fuel) collected]
  rfl

end Computer

end Pybrid
