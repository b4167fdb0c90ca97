import Pybrid.Redac.Calibration
import Pybrid.Redac.TraceTermination

/-! What the dependency information of a computer consists of. -/

namespace Pybrid

/-- A lane of a cluster, by its location. -/
def ClusterLoc.lane (loc : ClusterLoc) (lane : Fin 32) : LaneLoc :=
  ⟨loc.stackId, loc.carrierId, loc.clusterId, lane.val⟩

/-- Lanes are different if clusters or numbers are. -/
theorem ClusterLoc.lane_inj {loc other : ClusterLoc} {lane lane' : Fin 32} :
    loc.lane lane = other.lane lane' ↔ loc = other ∧ lane = lane' := by
  -- The lane of a location spells both.
  constructor
  · intro same
    obtain ⟨stack, carrier, cluster, number⟩ := LaneLoc.mk.inj same
    refine ⟨?_, Fin.ext (by omega)⟩
    cases loc
    cases other
    simp only at stack carrier cluster
    rw [stack, carrier, cluster]
  · rintro ⟨rfl, rfl⟩
    rfl

namespace Redac

/-- A signal as a trace, its carriers given by their numbers. -/
def traceOf (number : CarrierLoc → ℕ) (signal : Signal) : Wire.Trace :=
  ⟨⟨number signal.source.carrier, signal.source.clusterId, signal.source.laneId⟩,
    ⟨number signal.sink.carrier, signal.sink.clusterId, signal.sink.laneId⟩, signal.upscaled⟩

/-- An end of the signal is on the carrier at this location. -/
def Signal.Touches (signal : Signal) (loc : CarrierLoc) : Prop :=
  signal.source.carrier = loc ∨ signal.sink.carrier = loc

instance (signal : Signal) (loc : CarrierLoc) : Decidable (signal.Touches loc) :=
  inferInstanceAs (Decidable (_ ∨ _))

/-- Signals between known carriers are traced with their numbers, and no carrier is new. -/
theorem traces_known {known : List CarrierLoc} : ∀ {signals : List Signal},
    (∀ signal ∈ signals, signal.source.carrier ∈ known ∧ signal.sink.carrier ∈ known) →
    traces known signals = (signals.map (traceOf known.idxOf), known) := by
  intro signals
  -- No carrier has to be added to those known.
  induction signals with
  | nil => exact fun _ => rfl
  | cons signal later ih =>
    intro all
    obtain ⟨source, sink⟩ := all signal List.mem_cons_self
    have rest := ih fun other member => all other (List.mem_cons_of_mem _ member)
    simp only [traces, traceLane, carrierIndex_of_mem source, carrierIndex_of_mem sink, rest,
      List.map_cons, traceOf]

/-- The bit of a lane is set if a signal starts or ends on it. -/
theorem activeLanes_testBit (signals : List Signal) (lane : ℕ) :
    (activeLanes signals).testBit lane = true ↔
      ∃ signal ∈ signals, signal.source.laneId.toNat = lane ∨ signal.sink.laneId.toNat = lane := by
  -- The induction is on the signals still to be marked.
  have general : ∀ (later : List Signal) (lanes : ℕ),
      (later.foldl (fun lanes signal => lanes ||| 1 <<< signal.sink.laneId.toNat |||
        1 <<< signal.source.laneId.toNat) lanes).testBit lane = true ↔
      lanes.testBit lane = true ∨ ∃ signal ∈ later,
        signal.source.laneId.toNat = lane ∨ signal.sink.laneId.toNat = lane := by
    intro later
    induction later with
    | nil => simp
    | cons signal later ih =>
      intro lanes
      rw [List.foldl_cons, ih, Nat.testBit_or, Nat.testBit_or, Nat.one_shiftLeft, Nat.one_shiftLeft,
        Nat.testBit_two_pow, Nat.testBit_two_pow]
      simp only [Bool.or_eq_true, decide_eq_true_eq, List.mem_cons, exists_eq_or_imp]
      rw [or_assoc, or_assoc, or_left_comm (b := signal.source.laneId.toNat = lane), or_assoc]
  unfold activeLanes
  rw [general]
  simp

/-- A loop that returns has returned the values of its elements. -/
theorem mapM_returned {α β : Type} {body : α → Fueled β} : ∀ {elements : List α} {values : List β},
    elements.mapM body = pure values →
      List.Forall₂ (fun element value => body element = pure value) elements values := by
  intro elements
  -- Every call on the way has returned.
  induction elements with
  | nil =>
    intro values returned
    have none : values = [] := by
      rw [List.mapM_nil] at returned
      exact (Except.ok.inj (Option.some.inj returned)).symm
    rw [none]
    exact .nil
  | cons first later ih =>
    intro values returned
    rw [List.mapM_cons, bind_eq_pure] at returned
    obtain ⟨value, here, returned⟩ := returned
    obtain ⟨rest, behind, returned⟩ := bind_eq_pure.mp returned
    obtain rfl := Except.ok.inj (Option.some.inj returned)
    exact .cons here (ih behind)

end Redac

namespace Computer

open Redac

/-- The carriers have different locations, and clusters are located by their numbers there. -/
structure Placed (computer : Computer) : Prop where
  distinct : (computer.carriers.map (·.location)).Nodup
  clusters : ∀ carrier ∈ computer.carriers, ∀ (number : ℕ) (cluster : ClusterObject),
    carrier.clusters[number]? = some cluster →
      cluster.location = carrier.location.map fun loc => ⟨loc.stackId, loc.carrierId, number⟩

/-- The cluster is one of the computer's, at this location. -/
def HasCluster (computer : Computer) (loc : ClusterLoc) (cluster : ClusterObject) : Prop :=
  ∃ carrier ∈ computer.carriers, cluster ∈ carrier.clusters ∧ cluster.location = some loc

/-- A cluster is on the carrier its location names, under its number. -/
theorem Placed.carrier {computer : Computer} (placed : computer.Placed) {carrier : CarrierObject}
    (member : carrier ∈ computer.carriers) {cluster : ClusterObject}
    (inside : cluster ∈ carrier.clusters) {loc : ClusterLoc} (located : cluster.location = some loc) :
    carrier.location = some ⟨loc.stackId, loc.carrierId⟩ ∧
      ∃ number : ℕ, loc.clusterId = number ∧ carrier.clusters[number]? = some cluster := by
  obtain ⟨number, there⟩ := List.mem_iff_getElem?.mp inside
  -- The location of the cluster is that of its carrier, with its number.
  have named := placed.clusters carrier member number cluster there
  rw [located] at named
  obtain ⟨place, present, spelled⟩ := Option.map_eq_some_iff.mp named.symm
  subst spelled
  exact ⟨present, number, rfl, there⟩

/-- A carrier at a location is found there. -/
theorem Placed.findIdx? {computer : Computer} (placed : computer.Placed) {place : ℕ}
    {carrier : CarrierObject} (here : computer.carriers[place]? = some carrier) {loc : CarrierLoc}
    (located : carrier.location = some loc) :
    computer.carriers.findIdx? (fun carrier => carrier.location = some loc) = some place := by
  obtain ⟨bound, same⟩ := List.getElem?_eq_some_iff.mp here
  refine List.findIdx?_eq_some_iff_getElem.mpr ⟨bound, by simp [same, located], ?_⟩
  -- A carrier before it with that location would be a second one.
  intro earlier before
  simp only [Bool.not_eq_true, decide_eq_false_iff_not]
  intro again
  have pairwise := List.pairwise_iff_getElem.mp placed.distinct earlier place
    (by rw [List.length_map]; omega) (by rw [List.length_map]; omega) before
  simp only [List.getElem_map] at pairwise
  exact pairwise (again.trans (by rw [same, located]))

/-- Looking up a location finds the cluster that is there. -/
theorem Placed.clusterAt_iff {computer : Computer} (placed : computer.Placed) {loc : ClusterLoc}
    (front : 0 ≤ loc.clusterId) (cluster : ClusterObject) :
    computer.clusterAt loc = some cluster ↔ computer.HasCluster loc cluster := by
  constructor
  -- A number that is not negative is a position from the front, so the subscript keeps it.
  · intro found
    obtain ⟨⟨place, index⟩, looked, there⟩ := clusterAt_eq_some found
    unfold locate at looked
    split at looked
    swap
    · cases looked
    rename_i position first
    obtain ⟨number, subscripted, same⟩ := map_eq_ok looked
    cases same
    obtain ⟨bound, located, _⟩ := List.findIdx?_eq_some_iff_getElem.mp first
    obtain ⟨carrier, here, inside⟩ := Option.bind_eq_some_iff.mp there
    obtain ⟨bound', same⟩ := List.getElem?_eq_some_iff.mp here
    have member : carrier ∈ computer.carriers := List.mem_of_getElem? here
    have location : carrier.location = some ⟨loc.stackId, loc.carrierId⟩ := by
      simpa [same] using located
    have count : (number.val : Int) = loc.clusterId := by
      unfold Python.subscript at subscripted
      split at subscripted
      · cases subscripted
        simp only
        omega
      · split at subscripted
        · omega
        · cases subscripted
    refine ⟨carrier, member, List.mem_of_getElem? inside, ?_⟩
    rw [placed.clusters carrier member _ cluster inside, location]
    simp [count]
  -- No other carrier has the location, so the first that is found is this one.
  · rintro ⟨carrier, member, inside, located⟩
    obtain ⟨location, number, count, there⟩ := placed.carrier member inside located
    obtain ⟨place, here⟩ := List.mem_iff_getElem?.mp member
    have looked : computer.locate loc = .ok (place, number) := by
      unfold locate
      rw [placed.findIdx? here location]
      obtain ⟨bound, _⟩ := List.getElem?_eq_some_iff.mp there
      have subscripts : ∀ length : ℕ, number < length →
          ((Python.subscript length loc.clusterId).map fun index => (place, index.val)) =
            .ok (place, number) := by
        intro length short
        rw [count, Python.subscript_of_bounds (by omega)]
        simp [Except.map]
      exact subscripts _ (by rw [here]; exact bound)
    simp only [clusterAt, looked, cluster?, here, Option.bind_some, there]

/-- The tracer finds this source of a lane. -/
def TracesTo (tracer : Routing) (sink source : LaneLoc) : Prop :=
  ∃ fuel, Tracer.findCoef tracer fuel sink = some (.ok (some source))

/-- The signal that arrives at a lane of a cluster. -/
structure SignalAt (computer : Computer) (tracer : Routing) (cluster : ClusterObject)
    (lane : Fin 32) (signal : Signal) : Prop where
  sink : cluster.location.map (·.lane lane) = some signal.sink
  summed : ∃ output, (lane.val : Int) ∈ cluster.iblock.outputs.get output
  traced : TracesTo tracer signal.sink signal.source
  source : ∃ loc feeding, computer.HasCluster loc feeding ∧ ∃ (srcLane : Fin 32) (input : Int),
    signal.source = loc.lane srcLane ∧ feeding.ublock.outputs.get srcLane = some input ∧ input ≠ -1
  upscaled : signal.upscaled = cluster.iblock.upscaling.get lane

/-- A lane has been searched for its signal: what was found is the signal that arrives there. -/
theorem Placed.sinkSignal_iff {computer : Computer} (placed : computer.Placed) {tracer : Routing}
    {fuel : ℕ} {carrier : CarrierObject} (member : carrier ∈ computer.carriers)
    {cluster : ClusterObject} (inside : cluster ∈ carrier.clusters) {lane : Fin 32}
    {value : Option Signal}
    (returned : computer.sinkSignal tracer fuel cluster lane = pure value) (signal : Signal) :
    value = some signal ↔ computer.SignalAt tracer cluster lane signal := by
  unfold sinkSignal at returned
  obtain ⟨loc, located, returned⟩ := bind_eq_pure.mp returned
  obtain ⟨found, traced, returned⟩ := bind_eq_pure.mp returned
  have located : cluster.location = some loc := by
    cases present : cluster.location with
    | none => rw [present] at located; cases located
    | some here => rw [present] at located; cases located; rfl
  have traced : Tracer.findCoef tracer fuel (loc.lane lane) = some (.ok found) := traced
  obtain ⟨_, number, count, _⟩ := placed.carrier member inside located
  -- Whatever signal arrives here, its source is the one that was found.
  have same : ∀ {signal}, computer.SignalAt tracer cluster lane signal →
      signal.sink = loc.lane lane ∧ found = some signal.source := by
    intro signal arrives
    have sink := arrives.sink
    rw [located] at sink
    have sink := Option.some.inj sink
    obtain ⟨enough, finds⟩ := arrives.traced
    rw [← sink] at finds
    exact ⟨sink.symm, Except.ok.inj (Tracer.findCoef_unique traced finds)⟩
  cases found with
  | none =>
    -- Nothing feeds the lane.
    obtain rfl := Except.ok.inj (Option.some.inj returned)
    refine ⟨nofun, fun arrives => ?_⟩
    cases (same arrives).2
  | some source =>
    obtain ⟨sourceLane, front⟩ := Tracer.findCoef_source traced
    by_cases summed : cluster.iblock.sums lane.val = true
    swap
    · -- No output sums the lane.
      simp only [summed] at returned
      obtain rfl := Except.ok.inj (Option.some.inj returned)
      refine ⟨nofun, fun arrives => ?_⟩
      exact absurd (sums_iff.mpr arrives.summed) summed
    simp only [summed, not_true_eq_false, if_false] at returned
    obtain ⟨place, looked, returned⟩ := bind_eq_pure.mp returned
    obtain ⟨selected, position, returned⟩ := bind_eq_pure.mp returned
    have looked : computer.locate source.cluster = .ok place := Option.some.inj looked
    have position : Python.subscript 32 source.laneId = .ok selected := Option.some.inj position
    have lanes : selected = lane := by
      rw [sourceLane, show (loc.lane lane).laneId = lane.val from rfl,
        Python.subscript_of_bounds (by omega)] at position
      cases position
      simp
    subst lanes
    have sourceLoc : source = source.cluster.lane selected := by
      cases source
      simpa [ClusterLoc.lane, LaneLoc.cluster] using sourceLane
    have there : computer.clusterAt source.cluster = computer.cluster? place := by
      simp only [clusterAt, looked]
    have feeds : ∀ feeding, computer.HasCluster source.cluster feeding ↔
        computer.cluster? place = some feeding := fun feeding => by
      rw [← there]
      refine (placed.clusterAt_iff (front ?_) feeding).symm
      rw [show (loc.lane selected).clusterId = loc.clusterId from rfl, count]
      omega
    constructor
    · rintro rfl
      split at returned
      · cases returned
      · rename_i open_
        obtain rfl := Option.some.inj (Except.ok.inj (Option.some.inj returned))
        refine ⟨by rw [located]; rfl, sums_iff.mp summed, ⟨fuel, traced⟩, ?_, rfl⟩
        cases here : computer.cluster? place with
        | none => simp [here] at open_
        | some feeding =>
          rw [here] at open_
          cases input : feeding.ublock.outputs.get selected with
          | none => simp [input] at open_
          | some number =>
            refine ⟨_, feeding, (feeds feeding).mpr here, selected, number, sourceLoc, input, ?_⟩
            rintro rfl
            simp [input] at open_
    · intro arrives
      obtain ⟨sink, spelled⟩ := same arrives
      obtain rfl := Option.some.inj spelled
      obtain ⟨sourceAt, feeding, has, srcLane, input, named, carries, enabled⟩ := arrives.source
      obtain ⟨rfl, rfl⟩ := ClusterLoc.lane_inj.mp (sourceLoc.symm.trans named)
      have here := (feeds feeding).mp has
      rw [here] at returned
      simp only [Option.bind_some, carries, Option.some.injEq, enabled, reduceCtorEq, or_self,
        if_false] at returned
      obtain rfl := Except.ok.inj (Option.some.inj returned)
      obtain ⟨signalSource, signalSink, upscaled⟩ := signal
      simp only at sink
      rw [sink, show upscaled = cluster.iblock.upscaling.get selected from arrives.upscaled]
      rfl

/-- The lanes of all clusters that have a location, in the order in which they are searched. -/
def sinkLanes (computer : Computer) : List LaneLoc :=
  computer.sinks.filterMap fun place => place.1.location.map (·.lane place.2)

/-- No lane is searched twice. -/
theorem Placed.sinkLanes_nodup {computer : Computer} (placed : computer.Placed) :
    computer.sinkLanes.Nodup := by
  -- Two places are different lanes: of different carriers, clusters or numbers.
  unfold sinkLanes List.Nodup
  rw [List.pairwise_filterMap]
  unfold sinks
  rw [List.pairwise_flatMap]
  constructor
  · intro carrier member
    rw [List.pairwise_flatMap]
    constructor
    · intro cluster _
      rw [List.pairwise_map]
      refine (List.nodup_finRange 32).imp fun apart first here second there => ?_
      obtain ⟨loc, located, rfl⟩ := Option.map_eq_some_iff.mp here
      obtain ⟨loc', located', rfl⟩ := Option.map_eq_some_iff.mp there
      exact fun same => apart (ClusterLoc.lane_inj.mp same).2
    · rw [List.pairwise_iff_getElem]
      rintro i j bound bound' before ⟨cluster, lane⟩ here ⟨cluster', lane'⟩ there first at_ second at'
      obtain ⟨_, _, same⟩ := List.mem_map.mp here
      obtain ⟨_, _, same'⟩ := List.mem_map.mp there
      cases same
      cases same'
      have located := placed.clusters carrier member i _ (List.getElem?_eq_getElem bound)
      have located' := placed.clusters carrier member j _ (List.getElem?_eq_getElem bound')
      obtain ⟨loc, here, rfl⟩ := Option.map_eq_some_iff.mp at_
      obtain ⟨loc', there, rfl⟩ := Option.map_eq_some_iff.mp at'
      intro same
      obtain ⟨rfl, _⟩ := ClusterLoc.lane_inj.mp same
      rw [located] at here
      rw [located'] at there
      obtain ⟨_, _, spelled⟩ := Option.map_eq_some_iff.mp here
      obtain ⟨_, _, spelled'⟩ := Option.map_eq_some_iff.mp there
      have numbers := congrArg ClusterLoc.clusterId (spelled.trans spelled'.symm)
      simp only at numbers
      omega
  · have distinct := List.pairwise_map.mp placed.distinct
    refine distinct.imp_of_mem ?_
    rintro carrier carrier' member member' apart ⟨cluster, lane⟩ here ⟨cluster', lane'⟩ there
      first at_ second at'
    obtain ⟨_, inside, listed⟩ := List.mem_flatMap.mp here
    obtain ⟨_, inside', listed'⟩ := List.mem_flatMap.mp there
    obtain ⟨_, _, same⟩ := List.mem_map.mp listed
    obtain ⟨_, _, same'⟩ := List.mem_map.mp listed'
    cases same
    cases same'
    obtain ⟨loc, located, rfl⟩ := Option.map_eq_some_iff.mp at_
    obtain ⟨loc', located', rfl⟩ := Option.map_eq_some_iff.mp at'
    intro same
    obtain ⟨rfl, _⟩ := ClusterLoc.lane_inj.mp same
    exact apart ((placed.carrier member inside located).1.trans
      (placed.carrier member' inside' located').1.symm)

/-- The signals that were found are those that arrive somewhere, in the order of their lanes. -/
theorem Placed.signals_returned {computer : Computer} (placed : computer.Placed) {tracer : Routing}
    {fuel : ℕ} {found : List Signal} (returned : computer.signals tracer fuel = pure found) :
    (∀ signal, signal ∈ found ↔ ∃ carrier ∈ computer.carriers, ∃ cluster ∈ carrier.clusters,
      ∃ lane, computer.SignalAt tracer cluster lane signal) ∧
      (found.map (·.sink)).Sublist computer.sinkLanes := by
  obtain ⟨values, each, collected⟩ := bind_eq_pure.mp returned
  obtain rfl := Except.ok.inj (Option.some.inj collected)
  have each := mapM_returned each
  have within : ∀ place ∈ computer.sinks, ∃ carrier ∈ computer.carriers,
      place.1 ∈ carrier.clusters := by
    intro place member
    obtain ⟨carrier, inside, listed⟩ := List.mem_flatMap.mp member
    obtain ⟨cluster, there, listed⟩ := List.mem_flatMap.mp listed
    obtain ⟨lane, _, rfl⟩ := List.mem_map.mp listed
    exact ⟨carrier, inside, there⟩
  -- The induction is on the lanes, each of which has at most one signal.
  have general : ∀ (places : List (ClusterObject × Fin 32)) (values : List (Option Signal)),
      (∀ place ∈ places, ∃ carrier ∈ computer.carriers, place.1 ∈ carrier.clusters) →
      List.Forall₂ (fun place value => computer.sinkSignal tracer fuel place.1 place.2 = pure value)
        places values →
      (∀ signal, signal ∈ values.reduceOption ↔
        ∃ place ∈ places, computer.SignalAt tracer place.1 place.2 signal) ∧
        (values.reduceOption.map (·.sink)).Sublist
          (places.filterMap fun place => place.1.location.map (·.lane place.2)) := by
    intro places values within each
    induction each with
    | nil => simp
    | @cons place value places values here _ ih =>
      obtain ⟨carrier, member, inside⟩ := within place List.mem_cons_self
      have arrives := placed.sinkSignal_iff member inside here
      obtain ⟨listed, ordered⟩ := ih fun other there => within other (List.mem_cons_of_mem _ there)
      cases value with
      | none =>
        rw [List.reduceOption_cons_of_none]
        constructor
        · intro signal
          rw [listed, List.exists_mem_cons_iff, ← arrives]
          simp
        · exact ordered.trans ((List.sublist_cons_self place places).filterMap _)
      | some signal =>
        rw [List.reduceOption_cons_of_some]
        constructor
        · intro other
          rw [List.mem_cons, listed, List.exists_mem_cons_iff, ← arrives, Option.some.injEq,
            eq_comm]
        · have sink := ((arrives signal).mp rfl).sink
          have first : ((place :: places).filterMap fun place =>
              place.1.location.map (·.lane place.2)) = signal.sink ::
              places.filterMap fun place => place.1.location.map (·.lane place.2) :=
            List.filterMap_cons_some sink
          rw [List.map_cons, first]
          exact ordered.cons_cons _
  obtain ⟨listed, ordered⟩ := general _ _ within each
  refine ⟨fun signal => (listed signal).trans ?_, ordered⟩
  constructor
  · rintro ⟨place, member, arrives⟩
    obtain ⟨carrier, inside, there⟩ := within place member
    exact ⟨carrier, inside, place.1, there, place.2, arrives⟩
  · rintro ⟨carrier, inside, cluster, there, lane, arrives⟩
    refine ⟨(cluster, lane), ?_, arrives⟩
    exact List.mem_flatMap.mpr ⟨carrier, inside, List.mem_flatMap.mpr ⟨cluster, there,
      List.mem_map.mpr ⟨lane, List.mem_finRange lane, rfl⟩⟩⟩

/-- Dependency information that agrees with the state of the computer. -/
structure Consistent (computer : Computer) (tracer : Routing) (items : List Wire.Item)
    (entityIds : List Path) (signals : List Signal) (lanes : ℕ) (number : CarrierLoc → ℕ) :
    Prop where
  /-- Every carrier is listed once. -/
  entities : entityIds.Perm (computer.carriers.map (·.path))
  /-- The number of a carrier selects the carrier at its location. -/
  numbered : ∀ signal ∈ signals, ∀ loc, signal.Touches loc →
    ∃ carrier ∈ computer.carriers, carrier.location = some loc ∧
      entityIds[number loc]? = some carrier.path
  /-- The signals are those that arrive at a lane. -/
  produced : ∀ signal, signal ∈ signals ↔ ∃ carrier ∈ computer.carriers,
    ∃ cluster ∈ carrier.clusters, ∃ lane, computer.SignalAt tracer cluster lane signal
  /-- There is one for each of these lanes, in their order. -/
  once : (signals.map (·.sink)).Nodup
  ordered : (signals.map (·.sink)).Sublist computer.sinkLanes
  /-- Each carrier is told the traces that start or end on it. -/
  items : List.Forall₂ (fun carrier item => ∃ loc, carrier.location = some loc ∧
    item = ⟨carrier.path, some (.dependencyInfo ⟨entityIds,
      (signals.filter fun signal => signal.Touches loc).map (traceOf number), lanes⟩)⟩)
    computer.carriers items
  /-- The lanes in use are those on which a signal starts or ends. -/
  active : ∀ lane : ℕ, lanes.testBit lane = true ↔
    ∃ signal ∈ signals, signal.source.laneId = lane ∨ signal.sink.laneId = lane

/-- The ends of a signal that arrives are lanes of clusters of the computer. -/
theorem Placed.ends {computer : Computer} (placed : computer.Placed) {tracer : Routing}
    {carrier : CarrierObject} (member : carrier ∈ computer.carriers) {cluster : ClusterObject}
    (inside : cluster ∈ carrier.clusters) {lane : Fin 32} {signal : Signal}
    (arrives : computer.SignalAt tracer cluster lane signal) :
    (0 ≤ signal.source.laneId ∧ 0 ≤ signal.sink.laneId) ∧ ∀ loc, signal.Touches loc →
      ∃ carrier ∈ computer.carriers, carrier.location = some loc := by
  obtain ⟨sourceLoc, feeding, ⟨sourceCarrier, member', inside', located'⟩, srcLane, _, source, _⟩ :=
    arrives.source
  obtain ⟨sinkLoc, located, sink⟩ := Option.map_eq_some_iff.mp arrives.sink
  refine ⟨⟨?_, ?_⟩, ?_⟩
  · rw [source]
    exact Int.natCast_nonneg _
  · rw [← sink]
    exact Int.natCast_nonneg _
  -- The source is on the carrier it was found on, and the sink on this one.
  · rintro loc (same | same)
    · refine ⟨sourceCarrier, member', ?_⟩
      rw [(placed.carrier member' inside' located').1, ← same, source]
      rfl
    · refine ⟨carrier, member, ?_⟩
      rw [(placed.carrier member inside located).1, ← same, ← sink]
      rfl

/-- The item of a carrier holds the signals that touch it. -/
theorem dependencyItem_eq {entityIds : List Path} {known : List CarrierLoc} {signals : List Signal}
    (ends : ∀ signal ∈ signals, signal.source.carrier ∈ known ∧ signal.sink.carrier ∈ known)
    {lanes : ℕ} {carrier : CarrierObject} {loc : CarrierLoc} (located : carrier.location = some loc)
    (listed : loc ∈ known) :
    dependencyItem entityIds known (signals.map (traceOf known.idxOf)) lanes carrier =
      .ok ⟨carrier.path, some (.dependencyInfo ⟨entityIds,
        (signals.filter fun signal => signal.Touches loc).map (traceOf known.idxOf), lanes⟩)⟩ := by
  -- Known carriers have the same number only if they are the same.
  have own : (signals.map (traceOf known.idxOf)).filter (fun trace =>
      trace.source.carrier = known.idxOf loc ∨ trace.sink.carrier = known.idxOf loc) =
      (signals.filter fun signal => signal.Touches loc).map (traceOf known.idxOf) := by
    rw [List.filter_map]
    congr 1
    refine List.filter_congr fun signal member => ?_
    obtain ⟨source, sink⟩ := ends signal member
    refine decide_eq_decide.mpr ?_
    rw [Signal.Touches, traceOf, List.idxOf_inj source, List.idxOf_inj sink]
  simp only [dependencyItem, located, requireLoc, Except.map, carrierIndex_of_mem listed, own]

/-- Carriers that were put in order have locations, and are all there. -/
theorem sortedCarriers_ordered {computer : Computer} {sorted : List (CarrierLoc × CarrierObject)}
    (returned : computer.sortedCarriers = .ok sorted) : computer.Ordered sorted := by
  -- Sorting asks each carrier for its location, and it would have raised.
  have located : ∀ carrier ∈ computer.carriers, ∃ loc, carrier.location = some loc := by
    intro carrier member
    unfold sortedCarriers at returned
    obtain ⟨located, each, _⟩ := Raising.except_bind_eq_ok.mp returned
    obtain ⟨pair, _, computed⟩ := Raising.forall₂_target (Raising.mapM_eq_ok.mp each) member
    obtain ⟨loc, required, _⟩ := map_eq_ok computed
    cases present : carrier.location with
    | none =>
      rw [present] at required
      cases required
    | some here => exact ⟨here, rfl⟩
  obtain ⟨sorted', same, permuted, placed⟩ := sortedCarriers_ok located
  obtain rfl := Except.ok.inj (returned.symm.trans same)
  exact ⟨returned, permuted, placed⟩

/-- What the items consist of: the signals that were found, each told to the carriers it touches. -/
theorem Placed.items_returned {computer : Computer} (placed : computer.Placed)
    {sorted : List (CarrierLoc × CarrierObject)} (ordered : computer.Ordered sorted)
    {tracer : Routing} {fuel : ℕ} {items : List Wire.Item}
    (informed : computer.dependencyInfo sorted tracer fuel = pure items) :
    ∃ found, computer.signals tracer fuel = pure found ∧
      (∀ signal ∈ found, ∀ loc, signal.Touches loc → loc ∈ sorted.map (·.1)) ∧
      List.Forall₂ (fun carrier item => ∃ loc, carrier.location = some loc ∧
        item = ⟨carrier.path, some (.dependencyInfo ⟨sorted.map fun located => located.2.path,
          (found.filter fun signal => signal.Touches loc).map (traceOf (sorted.map (·.1)).idxOf),
          activeLanes found⟩)⟩)
        computer.carriers items := by
  obtain ⟨found, searched, collected⟩ := bind_eq_pure.mp informed
  obtain ⟨produced, _⟩ := placed.signals_returned searched
  -- All carriers are known before the signals are traced.
  have numbers := numberCarriers_eq (ordered.nodup placed.distinct)
  have touched : ∀ signal ∈ found, ∀ loc, signal.Touches loc → loc ∈ sorted.map (·.1) := by
    intro signal member loc touches
    obtain ⟨carrier, inside, cluster, there, lane, arrives⟩ := (produced signal).mp member
    obtain ⟨carrier, inside, located⟩ := (placed.ends inside there arrives).2 loc touches
    exact List.mem_map_of_mem (f := (·.1)) (ordered.mem inside located)
  have ends : ∀ signal ∈ found, signal.source.carrier ∈ sorted.map (·.1) ∧
      signal.sink.carrier ∈ sorted.map (·.1) := fun signal member =>
    ⟨touched signal member _ (.inl rfl), touched signal member _ (.inr rfl)⟩
  refine ⟨found, searched, touched, ?_⟩
  rw [numbers] at collected
  simp only [traces_known ends] at collected
  have each := (List.forall₂_and_left _ _).mpr
    ⟨fun carrier member => member, mapM_returned collected⟩
  refine each.imp fun carrier item both => ?_
  obtain ⟨member, computed⟩ := both
  obtain ⟨place, listed, rfl⟩ := List.mem_map.mp (ordered.permuted.mem_iff.mpr member)
  have located := ordered.placed place listed
  have inside : place.1 ∈ sorted.map (·.1) := List.mem_map_of_mem listed
  rw [dependencyItem_eq ends located inside] at computed
  exact ⟨place.1, located, (Except.ok.inj (Option.some.inj computed)).symm⟩

/--
The dependency information is consistent.

For every computer whose carriers have different locations and whose clusters are located by their
numbers, whatever is registered in the shared tables: whenever `serialize_dependency_info` returns,
what it returns agrees with the state of the blocks.
-/
theorem dependencyInfo_consistent (computer : Computer) (placed : computer.Placed) (fuel : ℕ)
    (m m' : Memory) (items : List Wire.Item)
    (returned : computer.serializeDependencyInfo fuel m = (some (.ok items), m')) :
    ∃ entityIds signals lanes number,
      computer.Consistent m'.view items entityIds signals lanes number := by
  unfold serializeDependencyInfo at returned
  split at returned
  · cases returned
  rename_i sorted after registered
  obtain ⟨informed, rfl⟩ := Prod.mk.inj returned
  have ordered : computer.Ordered sorted := by
    unfold registerCarriers at registered
    split at registered
    · cases registered
    · rename_i pairs sorts
      obtain ⟨_, middle, _, kept⟩ := Raising.bind_eq_ok.mp registered
      obtain ⟨rfl, _⟩ := Raising.pure_eq_ok.mp kept
      exact sortedCarriers_ordered sorts
  obtain ⟨found, searched, touched, items⟩ := placed.items_returned ordered informed
  obtain ⟨produced, inOrder⟩ := placed.signals_returned searched
  refine ⟨sorted.map fun located => located.2.path, found, activeLanes found,
    (sorted.map (·.1)).idxOf, ?_, ?_, produced, ?_, inOrder, items, ?_⟩
  · have paths := ordered.permuted.map (·.path)
    rwa [List.map_map] at paths
  · intro signal member loc touches
    obtain ⟨carrier, inside, located, _, path⟩ := ordered.path_at (touched signal member loc touches)
    exact ⟨carrier, inside, located, path⟩
  · exact inOrder.nodup placed.sinkLanes_nodup
  · intro lane
    rw [activeLanes_testBit]
    -- Signals end on lanes of clusters, whose numbers are not negative.
    have natural : ∀ signal ∈ found, 0 ≤ signal.source.laneId ∧ 0 ≤ signal.sink.laneId := by
      intro signal member
      obtain ⟨carrier, inside, cluster, there, lane, arrives⟩ := (produced signal).mp member
      exact (placed.ends inside there arrives).1
    constructor
    all_goals
      rintro ⟨signal, member, used⟩
      obtain ⟨source, sink⟩ := natural signal member
      exact ⟨signal, member, by omega⟩

/-- A computer of two carriers, of which the second one feeds an upscaled lane of the first. -/
def wired : Computer where
  -- The carriers are not listed in the order of their locations.
  carriers := [
    { path := ["B"]
      location := some ⟨0, 1⟩
      clusters := [{
        location := some ⟨0, 1, 0⟩
        ublock := .new
        cblock := .new
        iblock := { IBlockObject.new with
          outputs := IBlockObject.new.outputs.setIfInBounds 3 {8}
          upscaling := IBlockObject.new.upscaling.setIfInBounds 8 true } }]
      tblock := some ⟨1, some ⟨0, 1⟩⟩
      st0block := none
      st1block := none
      st2block := none },
    { path := ["A"]
      location := some ⟨0, 0⟩
      clusters := [{
        location := some ⟨0, 0, 0⟩
        ublock := { UBlock.new with outputs := UBlock.new.outputs.setIfInBounds 8 (some 3) }
        cblock := .new
        iblock := .new }]
      tblock := some ⟨0, some ⟨0, 0⟩⟩
      st0block := some ⟨0, some 0⟩
      st1block := some ⟨1, some 0⟩
      st2block := some ⟨2, some 0⟩ }]

/-- Its T-blocks, which lead the lane from the one carrier over the backplane to the other. -/
def joined : Memory where
  carriers := ⟨fun _ => none, fun ref =>
    if ref = some 0 then ⟨TBlock.identityMuxes.setIfInBounds 0 (some 1)⟩
    else if ref = some 1 then ⟨TBlock.identityMuxes.setIfInBounds 1 (some 0)⟩
    else .new⟩
  planes := ⟨fun _ => none, fun ref =>
    if ref = some 0 then (BackplaneTBlock.new.connect 0 1 0).toOption.getD .new else .new⟩

/-- The carriers of this computer in the order of their locations. -/
def wiredSorted : List (CarrierLoc × CarrierObject) :=
  [⟨0, 0⟩, ⟨0, 1⟩].zip wired.carriers.reverse

/-- The dependency information that both carriers are sent. -/
def wiredInfo : Wire.Payload :=
  .dependencyInfo ⟨[["A"], ["B"]], [⟨⟨0, 0, 8⟩, ⟨1, 0, 8⟩, true⟩], 256⟩

/-- Its carriers are where their clusters say. -/
theorem wired_placed : wired.Placed where
  distinct := by simp [wired]
  clusters := by
    simp only [wired, List.mem_cons, List.not_mem_nil, or_false, forall_eq_or_imp, forall_eq]
    -- Both carriers have one cluster, which is number 0.
    constructor <;>
    · intro number cluster there
      have first : number = 0 := by
        have := (List.getElem?_eq_some_iff.mp there).1
        simpa using this
      subst first
      cases there
      rfl

/-- The carriers are put in order. -/
theorem wired_sorted : wired.sortedCarriers = .ok wiredSorted := by
  show Except.ok (List.mergeSort [_, _] _) = _
  simp [List.mergeSort, List.MergeSort.Internal.splitInTwo, CarrierLoc.le, wiredSorted, wired]

set_option maxRecDepth 8000 in
/-- The carriers are registered, and the blocks stay as they are. -/
theorem wired_registered : ∃ registered : Memory,
    wired.registerCarriers joined = .ok wiredSorted registered ∧
      wired.signals registered.view 4 = pure [⟨⟨0, 0, 0, 8⟩, ⟨0, 1, 0, 8⟩, true⟩] := by
  -- The blocks are registered under their own places.
  refine ⟨_, by simp only [registerCarriers, wired_sorted]; rfl, ?_⟩
  rfl

/-- The dependency information of this computer holds one trace. -/
theorem wired_returned : ∃ registered, wired.serializeDependencyInfo 4 joined =
    (some (.ok [⟨["B"], some wiredInfo⟩, ⟨["A"], some wiredInfo⟩]), registered) := by
  obtain ⟨registered, registers, found⟩ := wired_registered
  -- Both carriers touch the trace.
  have collected : wired.dependencyItems wiredSorted [⟨⟨0, 0, 0, 8⟩, ⟨0, 1, 0, 8⟩, true⟩] =
      .ok [⟨["B"], some wiredInfo⟩, ⟨["A"], some wiredInfo⟩] := by
    rfl
  refine ⟨registered, ?_⟩
  simp only [serializeDependencyInfo, registers, dependencyInfo_of_signals found collected]
  rfl

theorem dependencyInfo_consistent_wired : ∃ registered entityIds signals lanes number,
    wired.Consistent (registered : Memory).view [⟨["B"], some wiredInfo⟩, ⟨["A"], some wiredInfo⟩]
      entityIds signals lanes number := by
  -- What was returned is the input of the theorem.
  obtain ⟨registered, returned⟩ := wired_returned
  exact ⟨registered, dependencyInfo_consistent wired wired_placed 4 _ _ _ returned⟩

end Computer

end Pybrid
