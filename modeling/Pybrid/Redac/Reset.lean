import Pybrid.Redac.ComputerObjects
import Pybrid.Redac.SerializerRoundTrip

/-! Resetting a computer, compared with building it anew. -/

namespace Pybrid

/-- The reset of an element: the one of every entity, which resets the children, and there are none. -/
def ComputationElement.reset {α : Type} (element : α) : α :=
  -- The computation has a reset too, but attributes are forwarded only if the element has none.
  element

namespace MIntBlock

/-- A new block of integrators. -/
def new : MIntBlock := ⟨Vector.replicate 8 ⟨0, 10000⟩, Vector.replicate 8 false⟩

/-- Switch the limiters off and reset the elements. -/
def reset (m : MIntBlock) : MIntBlock :=
  ⟨m.elements.map ComputationElement.reset, Vector.replicate 8 false⟩

end MIntBlock

namespace MMDRBlock

/-- A new MDR block, which multiplies. -/
def new : MMDRBlock := ⟨Vector.replicate 4 .multiplication⟩

/-- Reset the elements. -/
def reset (m : MMDRBlock) : MMDRBlock := ⟨m.elements.map ComputationElement.reset⟩

end MMDRBlock

namespace MBlock

/-- A new block of the same variant. -/
def renew : MBlock → MBlock
  | .general => .general
  | .int _ => .int .new
  | .mul => .mul
  | .mdr _ => .mdr .new

/-- Reset a math block; most variants have nothing to reset. -/
def reset : MBlock → MBlock
  | .general => .general
  | .int block => .int block.reset
  | .mul => .mul
  | .mdr block => .mdr block.reset

end MBlock

/-- Drop the connections and the constant. -/
def UBlock.reset (u : UBlock) : UBlock :=
  { u with outputs := Vector.replicate 32 none, constant := .flag false }

/-- Reset the elements. -/
def CBlock.reset (c : CBlock) : CBlock := ⟨c.elements.map ComputationElement.reset⟩

/-- Drop the sums and the upscaling. -/
def IBlock.reset (i : IBlock) : IBlock :=
  { i with outputs := Vector.replicate 16 ∅, upscaling := Vector.replicate 32 false }

namespace CarrierConfig

/-- Nothing is configured on a new carrier. -/
def renew (_ : CarrierConfig) : CarrierConfig := ⟨[], none, none, none⟩

/-- Drop the channels and the port selection. -/
def reset (c : CarrierConfig) : CarrierConfig := { c with adcConfig := [], aclSelect := none }

end CarrierConfig

/-- Something that is done to the configuration of every entity, for each kind of entity. -/
structure Change where
  carrier : CarrierConfig → CarrierConfig
  mBlock : MBlock → MBlock
  uBlock : UBlock → UBlock
  cBlock : CBlock → CBlock
  iBlock : IBlock → IBlock
  tBlock : TBlock → TBlock
  bplTBlock : BackplaneTBlock → BackplaneTBlock

namespace Change

/-- Reset every entity. -/
def reset : Change where
  carrier := CarrierConfig.reset
  mBlock := MBlock.reset
  uBlock := UBlock.reset
  cBlock := CBlock.reset
  iBlock := IBlock.reset
  tBlock := TBlock.reset
  bplTBlock := BackplaneTBlock.reset

/-- Build every entity anew. -/
def renew : Change where
  carrier := CarrierConfig.renew
  mBlock := MBlock.renew
  uBlock _ := .new
  cBlock _ := .new
  iBlock _ := .new
  tBlock _ := .new
  bplTBlock _ := .new

/-- What is done to an entity. -/
def entity (change : Change) : EntityConfig → EntityConfig
  | .carrier config => .carrier (change.carrier config)
  | .cluster => .cluster
  | .mBlock block => .mBlock (change.mBlock block)
  | .uBlock block => .uBlock (change.uBlock block)
  | .cBlock block => .cBlock (change.cBlock block)
  | .iBlock block => .iBlock (change.iBlock block)
  | .tBlock block => .tBlock (change.tBlock block)
  | .bplTBlock block => .bplTBlock (change.bplTBlock block)

/-- What is done to an entity, where it is. -/
def entry (change : Change) (entry : Entry) : Entry := (entry.1, change.entity entry.2)

end Change

/-- Do something to a block. -/
def Node.change {β : Type} (change : β → β) (node : Node β) : Node β :=
  { node with config := change node.config }

/-- Do something to a block with a location. -/
def LocatedNode.change {β location : Type} (change : β → β) (node : LocatedNode β location) :
    LocatedNode β location :=
  { node with config := change node.config }

/-- Do something to the blocks of a cluster. -/
def Cluster.change (change : Change) (cluster : Cluster) : Cluster :=
  { cluster with
    m0block := cluster.m0block.map (Node.change change.mBlock)
    m1block := cluster.m1block.map (Node.change change.mBlock)
    ublock := cluster.ublock.change change.uBlock
    cblock := cluster.cblock.change change.cBlock
    iblock := cluster.iblock.change change.iBlock }

namespace Carrier

/-- Do something to a carrier and everything below it. -/
def change (change : Change) (carrier : Carrier) : Carrier :=
  { carrier with
    config := change.carrier carrier.config
    clusters := carrier.clusters.map (Cluster.change change)
    tblock := carrier.tblock.map (LocatedNode.change change.tBlock)
    st0block := carrier.st0block.map (LocatedNode.change change.bplTBlock)
    st1block := carrier.st1block.map (LocatedNode.change change.bplTBlock)
    st2block := carrier.st2block.map (LocatedNode.change change.bplTBlock) }

/-- Every entity of the carrier is changed where it is. -/
theorem change_traversal (change : Change) (carrier : Carrier) :
    (carrier.change change).traversal = carrier.traversal.map change.entry := by
  -- The blocks of a cluster are visited in the same order.
  have blocks : ∀ cluster : Cluster,
      (cluster.change change).blockEntries = cluster.blockEntries.map change.entry := by
    intro cluster
    simp only [Cluster.blockEntries, Cluster.change, Option.toList_map, List.map_map,
      List.map_append, List.map_cons, List.map_nil]
    rfl
  simp only [traversal, Carrier.change, List.map_cons, List.map_append, Option.toList_map,
    List.map_map, List.flatMap_map, List.map_flatMap, blocks, Function.comp_def]
  rfl

end Carrier

namespace Redac

/-- Do something to every entity of a computer. -/
def change (change : Change) (r : Redac) : Redac where
  carriers := r.carriers.map (Carrier.change change)
  unique := by
    -- Paths are not changed, so that they stay different.
    have entries : (r.carriers.map (Carrier.change change)).flatMap Carrier.traversal =
        (r.carriers.flatMap Carrier.traversal).map change.entry := by
      simp [List.flatMap_map, List.map_flatMap, Carrier.change_traversal]
    rw [entries, List.map_map]
    exact r.unique

/-- Reset a computer. -/
def reset (r : Redac) : Redac := r.change .reset

/-- A newly built computer with the same entities. -/
def renew (r : Redac) : Redac := r.change .renew

/-- Every entity of the computer is changed where it is. -/
theorem change_traversal (change : Change) (r : Redac) :
    (r.change change).traversal = r.traversal.map change.entry := by
  simp [traversal, Redac.change, List.flatMap_map, List.map_flatMap, Carrier.change_traversal]

/-- Reading a list whose elements were changed changes what is read. -/
theorem subscript_map {α β : Type} (change : α → β) (elements : List α) (index : Int) :
    (Python.subscript (elements.map change).length index).map (elements.map change).get =
      ((Python.subscript elements.length index).map elements.get).map change := by
  simp only [Python.subscript, List.length_map]
  -- The same index is found from the front, from the back or not at all.
  by_cases front : 0 ≤ index ∧ index < elements.length
  · simp [front, Except.map]
  · by_cases back : -(elements.length : Int) ≤ index ∧ index < 0
    · simp [front, back, Except.map]
    · simp [front, back, Except.map]

/-- The cluster at a location of the changed computer is the changed cluster. -/
theorem findCluster_change (change : Change) (r : Redac) (loc : ClusterLoc) :
    (r.change change).findCluster loc = (r.findCluster loc).map (Cluster.change change) := by
  simp only [findCluster, Redac.change, List.find?_map, Function.comp_def]
  -- A change leaves every carrier where it is.
  have located : ∀ carrier : Carrier, (carrier.change change).location = carrier.location :=
    fun _ => rfl
  simp only [located]
  cases r.carriers.find? fun carrier =>
      decide (carrier.location = some (⟨loc.stackId, loc.carrierId⟩ : CarrierLoc)) with
  | none => rfl
  | some carrier => exact subscript_map _ _ _

/-- The carriers of the changed computer are sorted like before. -/
theorem sortedCarriers_change (change : Change) (r : Redac) :
    (r.change change).sortedCarriers =
      r.sortedCarriers.map (List.map fun located => (located.1, located.2.change change)) := by
  have located : ∀ carrier : Carrier, ((requireLoc (carrier.change change).location).map fun loc =>
      (loc, carrier.change change)) = ((requireLoc carrier.location).map fun loc =>
        (loc, carrier)).map fun located => (located.1, located.2.change change) := by
    intro carrier
    rw [Raising.except_map_map]
    rfl
  simp only [sortedCarriers, Redac.change, List.mapM_map, Function.comp_def, located,
    Raising.mapM_change]
  cases r.carriers.mapM fun carrier =>
      (requireLoc carrier.location).map fun loc => (loc, carrier) with
  | error error => rfl
  | ok found =>
    -- Only locations are compared, and these stay.
    refine congrArg Except.ok (List.map_mergeSort ?_).symm
    exact fun _ _ _ _ => rfl

section Dependencies

variable {change other : Change} (uBlock : change.uBlock = other.uBlock)
  (iBlock : change.iBlock = other.iBlock) (tBlock : change.tBlock = other.tBlock)
  (bplTBlock : change.bplTBlock = other.bplTBlock)

include tBlock bplTBlock in
/-- The tracer knows the same T-blocks. -/
theorem tracer_change (registry : Routing) (sorted : List (CarrierLoc × Carrier)) :
    tracer registry (sorted.map fun located => (located.1, located.2.change change)) =
      tracer registry (sorted.map fun located => (located.1, located.2.change other)) := by
  simp only [tracer, List.foldlM_map]
  congr 1
  funext current located
  -- A change is one of clusters, and the tracer is built of T-blocks.
  simp only [Routing.addCarrier, Carrier.change, tBlock, bplTBlock]

include uBlock iBlock in
/-- The same signal arrives at a lane. -/
theorem sinkSignal_change (r : Redac) (tracer : Routing) (fuel : Nat) (cluster : Cluster)
    (lane : Fin 32) :
    (r.change change).sinkSignal tracer fuel (cluster.change change) lane =
      (r.change other).sinkSignal tracer fuel (cluster.change other) lane := by
  simp only [sinkSignal, Cluster.change, Node.change, iBlock]
  refine bind_congr fun loc => bind_congr fun found => ?_
  -- The search through the T-blocks does not look at the carriers.
  cases found with
  | none => rfl
  | some source =>
    simp only [findCluster_change]
    split
    · rfl
    · -- Of the cluster that the signal comes from only the selection is looked at.
      cases r.findCluster source.cluster with
      | error error => rfl
      | ok found =>
        simp only [Except.map, returned, pure_bind, Cluster.change, Node.change, uBlock]

include uBlock iBlock in
/-- The same signals arrive at all lanes. -/
theorem signals_change (r : Redac) (tracer : Routing) (fuel : Nat) :
    (r.change change).signals tracer fuel = (r.change other).signals tracer fuel := by
  -- The same lanes are asked for, each in its changed cluster.
  have lanes : ∀ change : Change, ((r.change change).carriers.flatMap fun carrier =>
      carrier.clusters.flatMap fun cluster => (List.finRange 32).map fun lane => (cluster, lane)) =
      (r.carriers.flatMap fun carrier => carrier.clusters.flatMap fun cluster =>
        (List.finRange 32).map fun lane => (cluster, lane)).map fun place =>
          (place.1.change change, place.2) := by
    intro change
    simp [Redac.change, Carrier.change, List.flatMap_map, List.map_flatMap, Function.comp_def]
  simp only [signals, lanes, List.mapM_map, Function.comp_def, sinkSignal_change uBlock iBlock]

include uBlock iBlock tBlock bplTBlock in
/-- The dependency information is the same. -/
theorem serializeDependencyInfo_change (r : Redac) (registry : Routing) (fuel : Nat) :
    (r.change change).serializeDependencyInfo registry fuel =
      (r.change other).serializeDependencyInfo registry fuel := by
  simp only [serializeDependencyInfo, sortedCarriers_change, signals_change uBlock iBlock]
  -- A carrier without a location raises in both.
  cases r.sortedCarriers with
  | error error => rfl
  | ok sorted =>
    simp only [Except.map, returned, pure_bind, tracer_change tBlock bplTBlock, numberCarriers,
      List.foldl_map, List.map_map, Function.comp_def, Redac.change, List.mapM_map]
    rfl

end Dependencies

end Redac

/-- A payload as it travels, where factors and initial values have single precision. -/
def Wire.Payload.rounded (single : ℚ → ℚ) : Wire.Payload → Wire.Payload
  | .coefConfig elements =>
    .coefConfig (elements.map fun element => { element with factor := single element.factor })
  | .itorConfig elements =>
    .itorConfig (elements.map fun element => { element with ic := single element.ic })
  | payload => payload

/-- An item as it travels. -/
def Wire.Item.rounded (single : ℚ → ℚ) (item : Wire.Item) : Wire.Item :=
  { item with kind := item.kind.map (Wire.Payload.rounded single) }

namespace EntityConfig

variable {single : ℚ → ℚ}

/-- What a reset leaves alone is sent as it would be of a new entity. -/
def AsNew (single : ℚ → ℚ) : EntityConfig → Prop
  | .carrier config => ∀ modes ∈ config.frontPanelIo, modes = []
  | .mBlock (.int block) => ∀ k,
    single (block.elements.get k).ic = single 0 ∧ (block.elements.get k).k = 10000
  | .mBlock (.mdr block) => ∀ k, block.elements.get k = .multiplication
  | .cBlock block => ∀ k, single (block.elements.get k).val = single 1
  | _ => True

/-- Two lists of what is read off the slots of vectors are the same if the slots say the same. -/
theorem enumerate_map_inj {α β : Type} {n : Nat} {v w : Vector α n} {read : Nat × α → β} :
    (Slots.enumerate v).map read = (Slots.enumerate w).map read ↔
      ∀ k : Fin n, read (k.val, v.get k) = read (k.val, w.get k) := by
  -- Slots are enumerated by their numbers.
  simp only [Slots.enumerate, List.map_map, List.map_inj_left, List.mem_finRange, true_implies,
    Function.comp_apply]

/-- Resetting an element changes nothing. -/
theorem map_reset {α : Type} {n : Nat} (v : Vector α n) : v.map ComputationElement.reset = v :=
  Vector.map_id v

/-- The payloads of an entity after a reset are those of a new one if the rest is as new. -/
theorem serialize_reset_iff (entity : EntityConfig) :
    (Change.reset.entity entity).serializeConfiguration.map (Option.map (Wire.Payload.rounded single)) =
      (Change.renew.entity entity).serializeConfiguration.map
        (Option.map (Wire.Payload.rounded single)) ↔ entity.AsNew single := by
  cases entity with
  | carrier config =>
    -- Of a carrier only the front panel modes are left, and an empty list of them is not sent.
    obtain ⟨channels, ports, _ | _ | ⟨mode, more⟩, io⟩ := config <;>
      simp [AsNew, Change.entity, Change.reset, Change.renew, CarrierConfig.reset,
        CarrierConfig.renew, serializeConfiguration, CarrierConfig.serializeConfiguration,
        CarrierConfig.adcChannels]
  | cluster => exact ⟨fun _ => trivial, fun _ => rfl⟩
  | mBlock block =>
    cases block with
    | general => exact ⟨fun _ => trivial, fun _ => rfl⟩
    | int block =>
      simp only [AsNew, Change.entity, Change.reset, Change.renew, MBlock.reset, MBlock.renew,
        serializeConfiguration, MIntBlock.serializeConfiguration, MIntBlock.itorElements,
        MIntBlock.limiterElements, MIntBlock.reset, MIntBlock.new, map_reset, List.map_cons,
        List.map_nil, Option.map_some, Wire.Payload.rounded, List.map_map, List.cons.injEq,
        Option.some.injEq, Wire.Payload.itorConfig.injEq, and_true, enumerate_map_inj]
      simp [Vector.get_replicate]
    | mul => exact ⟨fun _ => trivial, fun _ => rfl⟩
    | mdr block =>
      simp only [AsNew, Change.entity, Change.reset, Change.renew, MBlock.reset, MBlock.renew,
        serializeConfiguration, MMDRBlock.serializeConfiguration, MMDRBlock.operations,
        MMDRBlock.reset, MMDRBlock.new, map_reset, List.map_cons, List.map_nil, Option.map_some,
        Wire.Payload.rounded, List.cons.injEq, Option.some.injEq, Wire.Payload.mdrConfig.injEq,
        and_true]
      have told : Function.Injective MdrOperation.toWire :=
        Function.LeftInverse.injective MdrOperation.ofWire_toWire
      rw [(List.map_injective_iff.mpr told).eq_iff, Vector.toList_inj]
      constructor
      · intro same k
        rw [same, Vector.get_replicate]
      · intro same
        ext k inside
        simpa [Vector.get_eq_getElem] using same ⟨k, inside⟩
  | uBlock block => exact ⟨fun _ => trivial, fun _ => rfl⟩
  | cBlock block =>
    simp only [AsNew, Change.entity, Change.reset, Change.renew, serializeConfiguration,
      CBlock.serializeConfiguration, CBlock.coefElements, CBlock.reset, CBlock.new, map_reset,
      List.map_cons, List.map_nil, Option.map_some, Wire.Payload.rounded, List.map_map,
      List.cons.injEq, Option.some.injEq, Wire.Payload.coefConfig.injEq, and_true,
      enumerate_map_inj]
    simp [Vector.get_replicate, Factor.default]
  | iBlock block => exact ⟨fun _ => trivial, fun _ => rfl⟩
  | tBlock block => exact ⟨fun _ => trivial, fun _ => rfl⟩
  | bplTBlock block => exact ⟨fun _ => trivial, fun _ => rfl⟩

end EntityConfig

namespace Redac

/-- The items of entities with different paths are the same if those of each entity are. -/
theorem flatMap_items_inj {entries : List Entry} (distinct : (entries.map Prod.fst).Nodup)
    {payloads others : Entry → List (Option Wire.Payload)} :
    (entries.flatMap fun entry => (payloads entry).map fun kind => (⟨entry.1, kind⟩ : Wire.Item)) =
      (entries.flatMap fun entry => (others entry).map fun kind => (⟨entry.1, kind⟩ : Wire.Item)) ↔
      ∀ entry ∈ entries, payloads entry = others entry := by
  induction entries with
  | nil => simp
  | cons entry later ih =>
    simp only [List.map_cons, List.nodup_cons] at distinct
    rw [List.flatMap_cons, List.flatMap_cons, List.forall_mem_cons, ← ih distinct.2]
    -- The items of the first entity are those with its path.
    have own : ∀ kinds : List (Option Wire.Payload),
        (kinds.map fun kind => (⟨entry.1, kind⟩ : Wire.Item)).filter (·.path = entry.1) =
          kinds.map fun kind => ⟨entry.1, kind⟩ := by
      intro kinds
      rw [List.filter_eq_self]
      simp
    have foreign : ∀ kinds : Entry → List (Option Wire.Payload), (later.flatMap fun other =>
        (kinds other).map fun kind => (⟨other.1, kind⟩ : Wire.Item)).filter (·.path = entry.1) =
          [] := by
      intro kinds
      rw [List.filter_eq_nil_iff]
      intro item member
      obtain ⟨other, listed, inside⟩ := List.mem_flatMap.mp member
      obtain ⟨kind, -, rfl⟩ := List.mem_map.mp inside
      simp only [decide_eq_true_eq]
      intro same
      exact distinct.1 (same ▸ List.mem_map_of_mem listed)
    constructor
    · intro same
      have first := congrArg (List.filter (·.path = entry.1)) same
      rw [List.filter_append, List.filter_append, own, own, foreign, foreign, List.append_nil,
        List.append_nil] at first
      rw [first, List.append_cancel_left_eq] at same
      have injective : Function.Injective fun kind : Option Wire.Payload =>
          (⟨entry.1, kind⟩ : Wire.Item) := fun _ _ equal => (Wire.Item.mk.inj equal).2
      exact ⟨List.map_injective_iff.mpr injective first, same⟩
    · rintro ⟨first, rest⟩
      rw [first, rest]

/-- The items of a changed computer, as they travel. -/
theorem serializeEntities_change (single : ℚ → ℚ) (change : Change) (r : Redac) :
    (r.change change).serializeEntities.map (Wire.Item.rounded single) =
      r.traversal.flatMap fun entry => ((change.entity entry.2).serializeConfiguration.map
        (Option.map (Wire.Payload.rounded single))).map fun kind => ⟨entry.1, kind⟩ := by
  simp only [serializeEntities, change_traversal, List.flatMap_map, List.map_flatMap, List.map_map]
  rfl

/-- The dependency information after a reset is that of a new computer. -/
theorem serializeDependencyInfo_reset (r : Redac) (registry : Routing) (fuel : Nat) :
    r.reset.serializeDependencyInfo registry fuel = r.renew.serializeDependencyInfo registry fuel :=
  -- Reset and renewal agree on all that a signal passes.
  have selection : Change.reset.uBlock = Change.renew.uBlock := rfl
  have sums : Change.reset.iBlock = Change.renew.iBlock := rfl
  serializeDependencyInfo_change selection sums rfl rfl r registry fuel

/-- The entities are sent like new ones if the reset has left nothing behind. -/
theorem serializeEntities_reset_iff (single : ℚ → ℚ) (r : Redac) :
    r.reset.serializeEntities.map (Wire.Item.rounded single) =
      r.renew.serializeEntities.map (Wire.Item.rounded single) ↔
      ∀ entry ∈ r.traversal, entry.2.AsNew single := by
  rw [reset, renew, serializeEntities_change, serializeEntities_change]
  -- Each path has one entity, so that the items are compared entity by entity.
  refine (flatMap_items_inj r.unique).trans ?_
  exact forall₂_congr fun entry _ => EntityConfig.serialize_reset_iff entry.2

/-- A computer that was reset is serialized if a new one is, and their items end the same way. -/
theorem serializeConfiguration_reset {r : Redac} {registry : Routing} {fuel : Nat}
    {items : List Wire.Item}
    (produced : r.renew.serializeConfiguration registry fuel = some (.ok items)) :
    ∃ dependencies, items = r.renew.serializeEntities ++ dependencies ∧
      r.reset.serializeConfiguration registry fuel =
        some (.ok (r.reset.serializeEntities ++ dependencies)) := by
  simp only [serializeConfiguration, serializeDependencyInfo_reset] at produced ⊢
  -- The dependency information is the same, only the entities may differ.
  cases found : r.renew.serializeDependencyInfo registry fuel with
  | none =>
    rw [found] at produced
    cases produced
  | some result =>
    rw [found] at produced
    cases result with
    | error error => cases produced
    | ok dependencies => exact ⟨dependencies, (Except.ok.inj (Option.some.inj produced)).symm, rfl⟩

/--
A computer that was reset is serialized like a new one exactly if the reset has left nothing behind.

It leaves factors, initial values, time constants, operations and front panel modes alone.
-/
theorem reset_serializes_as_new_iff (single : ℚ → ℚ) (r : Redac) {registry : Routing} {fuel : Nat}
    {items : List Wire.Item}
    (produced : r.renew.serializeConfiguration registry fuel = some (.ok items)) :
    (∃ left, r.reset.serializeConfiguration registry fuel = some (.ok left) ∧
      left.map (Wire.Item.rounded single) = items.map (Wire.Item.rounded single)) ↔
      ∀ entry ∈ r.traversal, entry.2.AsNew single := by
  -- Both end with the same dependency information, so that the entities make the difference.
  obtain ⟨dependencies, rfl, returned⟩ := serializeConfiguration_reset produced
  rw [← serializeEntities_reset_iff, returned]
  constructor
  · rintro ⟨left, equal, same⟩
    obtain rfl := Except.ok.inj (Option.some.inj equal)
    rw [List.map_append, List.map_append, List.append_cancel_right_eq] at same
    exact same
  · intro same
    refine ⟨_, rfl, ?_⟩
    rw [List.map_append, List.map_append, same]

/-- The new computers of the samples are the same, and are serialized. -/
theorem renew_sample (factor : Factor) :
    ∃ fuel items, (sample (some ⟨0, 0⟩) factor).renew.serializeConfiguration Routing.empty fuel =
      some (.ok items) := by
  -- The sample can be traced, so that its dependency information is produced.
  obtain ⟨dependencies, ⟨fuel, returns⟩, -⟩ :=
    serializeDependencyInfo_settles (sample_traceable Factor.default)
  refine ⟨fuel, (sample (some ⟨0, 0⟩) Factor.default).serializeEntities ++ dependencies, ?_⟩
  show (sample (some ⟨0, 0⟩) Factor.default).serializeConfiguration Routing.empty fuel = _
  rw [serializeConfiguration, returns fuel le_rfl]
  rfl

/-- Set what a reset clears: channels and ports, limiters, connections, sums and upscaling. -/
def occupy : Change where
  -- Everything a reset takes back is set to something else.
  carrier config :=
    { config with adcConfig := [some ⟨0, 1, 0, 2⟩], aclSelect := some ["external"] }
  mBlock
    | .int block => .int { block with limiters := Vector.replicate 8 true }
    | block => block
  uBlock block := { block with outputs := Vector.replicate 32 (some 3), constant := .flag true }
  -- The factors are left, as a reset leaves them too.
  cBlock := id
  iBlock block := { block with upscaling := Vector.replicate 32 true }
  tBlock := id
  bplTBlock := id

/-- The sample with everything set that a reset clears. -/
def occupied : Redac := (sample (some ⟨0, 0⟩) Factor.default).change occupy

/-- Its factors, initial values, time constants and front panel modes are those of a new computer. -/
theorem occupied_asNew : ∀ entry ∈ occupied.traversal, entry.2.AsNew id := by
  intro entry member
  rw [occupied, change_traversal] at member
  simp only [sample, traversal, sampleCarrier, Carrier.traversal, Cluster.blockEntries,
    List.flatMap_cons, List.flatMap_nil, List.append_nil, List.map_cons, List.map_nil,
    Option.toList_some, Option.toList_none, List.cons_append, List.nil_append, List.mem_cons,
    List.not_mem_nil, or_false] at member
  rcases member with rfl | rfl | rfl | rfl | rfl | rfl | rfl
  · intro modes set
    cases set
  · trivial
  · trivial
  -- The integrators.
  · intro k
    simp [Vector.get_replicate]
  · trivial
  -- The coefficients.
  · intro k
    simp [Vector.get_replicate, Factor.default, occupy]
  · trivial

/-- What was set before a reset is not sent after it: the sample is sent like a new computer. -/
theorem reset_serializes_as_new_sample :
    ∃ fuel items left,
      occupied.renew.serializeConfiguration Routing.empty fuel = some (.ok items) ∧
      occupied.reset.serializeConfiguration Routing.empty fuel = some (.ok left) ∧
      left.map (Wire.Item.rounded id) = items.map (Wire.Item.rounded id) := by
  obtain ⟨fuel, items, produced⟩ := renew_sample Factor.default
  -- Every factor is the default, which is all the condition asks.
  obtain ⟨left, returned, same⟩ :=
    (reset_serializes_as_new_iff id occupied produced).mpr occupied_asNew
  exact ⟨fuel, items, left, produced, returned, same⟩

/-- Factors of zero are still sent after a reset, where a new computer sends ones. -/
theorem reset_keeps_factors :
    ∃ fuel items left,
      (sample (some ⟨0, 0⟩) ⟨0, by norm_num⟩).renew.serializeConfiguration Routing.empty fuel =
        some (.ok items) ∧
      (sample (some ⟨0, 0⟩) ⟨0, by norm_num⟩).reset.serializeConfiguration Routing.empty fuel =
        some (.ok left) ∧
      left.map (Wire.Item.rounded id) ≠ items.map (Wire.Item.rounded id) := by
  obtain ⟨fuel, items, produced⟩ := renew_sample ⟨0, by norm_num⟩
  obtain ⟨dependencies, rfl, returned⟩ := serializeConfiguration_reset produced
  refine ⟨fuel, _, _, produced, returned, ?_⟩
  rw [List.map_append, List.map_append, Ne, List.append_cancel_right_eq,
    serializeEntities_reset_iff]
  intro new
  -- The factor of lane 0 would have to be the default.
  have kept := new (["AA", "0", "C"], .cBlock ⟨Vector.replicate 32 ⟨0, by norm_num⟩⟩) (by
    simp [sample, traversal, sampleCarrier, Carrier.traversal, Cluster.blockEntries, Node.entry,
      BlockKind.inject]) 0
  simp [Vector.get_replicate] at kept

end Redac

end Pybrid
