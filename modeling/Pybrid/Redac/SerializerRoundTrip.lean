import Pybrid.Library.Fuel
import Pybrid.Library.Raising
import Pybrid.Redac.BlockRoundTrip
import Pybrid.Redac.Serializer

/-! A computer's configuration survives being serialized and applied to another computer. -/

namespace Pybrid

/-- The kinds of math blocks. -/
inductive MVariant where
  | general
  | int
  | mul
  | mdr
  deriving DecidableEq, Repr

/-- The kind of a math block. -/
def MBlock.variant : MBlock → MVariant
  | .general => .general
  | .int _ => .int
  | .mul => .mul
  | .mdr _ => .mdr

namespace EntityConfig

/-- What kind of entity this is, without its configuration. -/
def shape (entity : EntityConfig) : EntitySlot × Option MVariant :=
  match entity with
  | .mBlock block => (.mBlock, some block.variant)
  | entity => (entity.slot, none)

/-- Apply payloads in order, skipping the ones that are not set. -/
def configureAll (entity : EntityConfig) (payloads : List (Option Wire.Payload)) :
    Except PyError EntityConfig :=
  payloads.foldlM (fun current payload =>
    match payload with
    | none => .ok current
    | some payload => current.configure payload) entity

/-- Math, coefficient, summation and T-blocks. -/
def Restorable : EntityConfig → Prop
  | .mBlock _ | .cBlock _ | .iBlock _ | .tBlock _ => True
  | _ => False

/-- A T-block has all its multiplexers set. -/
def Connected : EntityConfig → Prop
  | .tBlock block => ∀ k, (block.muxes.get k).isSome
  | _ => True

/-- An entity is configured as its state is, where that stays of its own type. -/
theorem configure_eq_ok {entity configured : EntityConfig} {payload : Wire.Payload} :
    entity.configure payload = .ok configured ↔
      (EntityState.typed entity).configure payload = .ok (.typed configured) := by
  rw [configure, Raising.except_bind_eq_ok]
  constructor
  · rintro ⟨state, applied, typed⟩
    cases state with
    | typed other =>
      cases typed
      exact applied
    | selected outputs upscaling => cases typed
  · intro applied
    exact ⟨_, applied, rfl⟩

end EntityConfig

namespace EntityState

/-- A payload keeps the class of the entity. -/
theorem configure_kind {s s' : EntityState} {payload : Wire.Payload}
    (applied : s.configure payload = .ok s') : s'.kind = s.kind := by
  unfold configure at applied
  -- Each handler rebuilds an entity of the class it was given, and the last case changes none.
  split at applied <;>
    first
      | (cases applied; rfl)
      | (obtain ⟨_, -, rfl⟩ := Raising.except_map_eq_ok.mp applied; rfl)
      | skip
  rename_i muxes outputs upscaling
  cases connected : sectorConnections muxes with
  | nil =>
    rw [connected] at applied
    cases applied
    rfl
  | cons first later =>
    rw [connected] at applied
    cases applied

end EntityState

namespace EntityConfig

/-- Entities of one class take the same place. -/
theorem slot_of_kind {entity other : EntityConfig} (same : entity.kind = other.kind) :
    entity.slot = other.slot := by
  rcases entity with config | _ | (_ | block | _ | block) | block | block | block | block | block <;>
    rcases other with config | _ | (_ | block | _ | block) | block | block | block | block | block <;>
    -- Entities of one kind are in the same slot, the other pairs are excluded.
    first | rfl | cases same

/-- Dependency information leaves every entity as it is. -/
theorem configure_dependencyInfo (entity : EntityConfig) (info : Wire.DependencyInfo) :
    entity.configure (.dependencyInfo info) = .ok entity := by
  cases entity <;> rfl

/-- Applying a payload keeps the place of the entity. -/
theorem configure_slot {entity configured : EntityConfig} {payload : Wire.Payload}
    (applied : entity.configure payload = .ok configured) : configured.slot = entity.slot :=
  slot_of_kind (EntityState.configure_kind (configure_eq_ok.mp applied))

/-- A carrier accepts the payloads of any carrier. -/
theorem configureAll_carrier (source target : CarrierConfig) :
    ∃ result, configureAll (.carrier target) source.serializeConfiguration = .ok result := by
  -- The three payloads are present or not, independently of each other.
  simp only [CarrierConfig.serializeConfiguration]
  split <;> split <;> split <;> exact ⟨_, rfl⟩

/-- The two payloads of an integrator block restore it. -/
theorem configureAll_mInt (source target : MIntBlock) :
    configureAll (.mBlock (.int target)) (source.serializeConfiguration.map some) =
      .ok (.mBlock (.int source)) := by
  -- The first payload restores the integrators, the second one the limiters behind them.
  simp only [configureAll, MIntBlock.serializeConfiguration, List.map_cons, List.map_nil,
    List.foldlM_cons, List.foldlM_nil, configure, EntityState.configure, EntityState.requireTyped,
    MIntBlock.roundTrip_itors, Except.map, bind, Except.bind, MIntBlock.roundTrip_limiters]
  rfl

/-- The payloads of an entity are accepted by every entity of its kind, and restore it. -/
theorem configureAll_serialized (source target : EntityConfig) (same : source.shape = target.shape)
    (connected : source.Connected) :
    ∃ result, target.configureAll source.serializeConfiguration = .ok result ∧
      (source.Restorable → result = source) := by
  -- The target has the kind of the source, so each constructor meets its own payloads.
  cases source with
  | carrier config =>
    obtain ⟨old, rfl⟩ : ∃ old, target = .carrier old := by
      cases target <;> simp [shape, slot] at same ⊢
    obtain ⟨result, accepted⟩ := configureAll_carrier config old
    exact ⟨result, accepted, fun restorable => False.elim restorable⟩
  | cluster => exact ⟨target, rfl, fun restorable => False.elim restorable⟩
  | mBlock block =>
    obtain ⟨old, rfl⟩ : ∃ old, target = .mBlock old := by
      cases target <;> simp [shape, slot] at same ⊢
    -- Math blocks are told apart once more, because their payloads differ.
    cases block with
    | general =>
      obtain rfl : old = .general := by cases old <;> simp [shape, MBlock.variant] at same ⊢
      exact ⟨_, rfl, fun _ => rfl⟩
    | int block =>
      obtain ⟨old, rfl⟩ : ∃ inner, old = .int inner := by
        cases old <;> simp [shape, MBlock.variant] at same ⊢
      exact ⟨_, configureAll_mInt block old, fun _ => rfl⟩
    | mul =>
      obtain rfl : old = .mul := by cases old <;> simp [shape, MBlock.variant] at same ⊢
      exact ⟨_, rfl, fun _ => rfl⟩
    | mdr block =>
      obtain ⟨old, rfl⟩ : ∃ inner, old = .mdr inner := by
        cases old <;> simp [shape, MBlock.variant] at same ⊢
      refine ⟨.mBlock (.mdr block), ?_, fun _ => rfl⟩
      simp [configureAll, serializeConfiguration, MMDRBlock.serializeConfiguration, configure,
        EntityState.configure, EntityState.requireTyped, MMDRBlock.roundTrip, Except.map, bind,
        Except.bind, pure, Except.pure]
  | uBlock block =>
    obtain ⟨old, rfl⟩ : ∃ old, target = .uBlock old := by
      cases target <;> simp [shape, slot] at same ⊢
    simp only [serializeConfiguration, UBlock.serializeConfiguration]
    -- A selection block is accepted, but it is not one of those that are always restored.
    split
    · exact ⟨_, rfl, fun restorable => False.elim restorable⟩
    · simp [configureAll, configure, EntityState.configure, EntityState.requireTyped,
        UBlock.roundTrip, Except.map, bind, Except.bind, pure,
        Except.pure, Restorable]
  | cBlock block =>
    obtain ⟨old, rfl⟩ : ∃ old, target = .cBlock old := by
      cases target <;> simp [shape, slot] at same ⊢
    refine ⟨.cBlock block, ?_, fun _ => rfl⟩
    simp [configureAll, serializeConfiguration, CBlock.serializeConfiguration, configure,
      EntityState.configure, EntityState.requireTyped, CBlock.roundTrip, Except.map, bind,
      Except.bind, pure, Except.pure]
  | iBlock block =>
    obtain ⟨old, rfl⟩ : ∃ old, target = .iBlock old := by
      cases target <;> simp [shape, slot] at same ⊢
    refine ⟨.iBlock block, ?_, fun _ => rfl⟩
    simp [configureAll, serializeConfiguration, IBlock.serializeConfiguration, configure,
      EntityState.configure, EntityState.requireTyped, IBlock.roundTrip, Except.map, bind,
      Except.bind, pure, Except.pure]
  | tBlock block =>
    obtain ⟨old, rfl⟩ : ∃ old, target = .tBlock old := by
      cases target <;> simp [shape, slot] at same ⊢
    refine ⟨.tBlock block, ?_, fun _ => rfl⟩
    simp [configureAll, serializeConfiguration, TBlock.serializeConfiguration_eq connected,
      configure, EntityState.configure, EntityState.requireTyped, TBlock.roundTrip old connected,
      Except.map, bind, Except.bind, pure, Except.pure]
  | bplTBlock block =>
    obtain ⟨old, rfl⟩ : ∃ old, target = .bplTBlock old := by
      cases target <;> simp [shape, slot] at same ⊢
    -- Backplane blocks accept the item, whatever it makes of them.
    obtain ⟨restored, ran, _⟩ := BackplaneTBlock.transfer_recodes block old
    simp only [BackplaneTBlock.transfer, BackplaneTBlock.serializeConfiguration] at ran
    simp only [serializeConfiguration, BackplaneTBlock.serializeConfiguration]
    split at ran
    · rename_i muxes emitted
      rw [emitted]
      simp [configureAll, configure, EntityState.configure, EntityState.requireTyped, ran, Except.map,
        bind, Except.bind, pure, Except.pure, Restorable]
    · rename_i other
      split
      · exact ⟨_, rfl, fun restorable => False.elim restorable⟩
      · rename_i filled
        exact absurd (if_neg filled) (other _)

end EntityConfig

namespace Redac

/-- Two computers have the same entities in the same places. -/
def SameStructure (r other : Redac) : Prop :=
  r.traversal.map (fun entry => (entry.1, entry.2.shape)) =
    other.traversal.map fun entry => (entry.1, entry.2.shape)

/-- Every T-block of the computer has all its multiplexers set. -/
def Connected (r : Redac) : Prop := ∀ entry ∈ r.traversal, entry.2.Connected

/-- The items of one entity configure that entity and no other. -/
theorem deserialize_entity {path : Path} :
    ∀ (payloads : List (Option Wire.Payload)) {r : Redac} {entity result : EntityConfig},
      r.getEntity path = .ok entity → entity.configureAll payloads = .ok result →
      ∃ final, r.deserializeConfiguration (payloads.map fun kind => ⟨path, kind⟩) = .ok final ∧
        final.getEntity path = .ok result ∧
        ∀ other old, other ≠ path → r.getEntity other = .ok old → final.getEntity other = .ok old := by
  -- The induction is on the items still to be applied.
  intro payloads
  induction payloads with
  | nil =>
    intro r entity result found configured
    simp only [EntityConfig.configureAll, List.foldlM_nil, pure, Except.pure,
      Except.ok.injEq] at configured
    exact ⟨r, rfl, configured ▸ found, fun _ _ _ held => held⟩
  | cons payload later ih =>
    intro r entity result found configured
    cases payload with
    | none => exact ih found configured
    | some payload =>
      simp only [EntityConfig.configureAll, List.foldlM_cons] at configured
      cases applied : entity.configure payload with
      | error error => simp [applied, bind, Except.bind] at configured
      | ok middle =>
        rw [applied] at configured
        -- The item leaves a computer in which the entity is the configured one.
        have stepped : ∃ next, r.deserializeItem ⟨path, some payload⟩ = .ok next ∧
            next.getEntity path = .ok middle ∧ ∀ other old, other ≠ path →
              r.getEntity other = .ok old → next.getEntity other = .ok old := by
          -- Dependency information is passed over by both sides.
          by_cases ignored : ∃ info, payload = .dependencyInfo info
          · obtain ⟨info, rfl⟩ := ignored
            have unchanged : middle = entity := by
              rw [EntityConfig.configure_dependencyInfo, Except.ok.injEq] at applied
              exact applied.symm
            exact ⟨r, rfl, unchanged ▸ found, fun _ _ _ held => held⟩
          · refine ⟨r.store path middle, ?_, getEntity_store found
              (EntityConfig.configure_slot applied), fun other old foreign held =>
              getEntity_store_ne foreign held⟩
            simp only [deserializeItem]
            split
            · rename_i same
              simp at same
            · rename_i info same
              exact absurd ⟨info, by simpa using same⟩ ignored
            · rename_i same
              simp only [Option.some.injEq] at same
              subst same
              simp [found, applied, bind, Except.bind, pure, Except.pure]
        obtain ⟨next, ran, own, others⟩ := stepped
        obtain ⟨final, rest, restored, kept⟩ := ih own configured
        refine ⟨final, ?_, restored, fun other old foreign held =>
          kept other old foreign (others other old foreign held)⟩
        simp only [deserializeConfiguration, List.map_cons, List.foldlM_cons, ran]
        exact rest

/-- The items of several entities configure each of them. -/
theorem deserialize_entries :
    ∀ (entries : List Entry) (r : Redac), (entries.map Prod.fst).Nodup →
      (∀ entry ∈ entries, entry.2.Connected) →
      (∀ entry ∈ entries, ∃ old, r.getEntity entry.1 = .ok old ∧ entry.2.shape = old.shape) →
      ∃ final, r.deserializeConfiguration (entries.flatMap fun entry =>
          entry.2.serializeConfiguration.map fun kind => ⟨entry.1, kind⟩) = .ok final ∧
        (∀ entry ∈ entries, ∃ result, final.getEntity entry.1 = .ok result ∧
          (entry.2.Restorable → result = entry.2)) ∧
        ∀ other old, other ∉ entries.map Prod.fst → r.getEntity other = .ok old →
          final.getEntity other = .ok old := by
  -- Entities configured already are not touched again, because paths are different.
  intro entries
  induction entries with
  | nil => exact fun r _ _ _ => ⟨r, rfl, by simp, fun _ _ _ held => held⟩
  | cons entry later ih =>
    intro r distinct connected present
    simp only [List.map_cons, List.nodup_cons] at distinct
    obtain ⟨old, found, shape⟩ := present entry (by simp)
    obtain ⟨result, configured, restored⟩ := EntityConfig.configureAll_serialized entry.2 old shape
      (connected entry (by simp))
    obtain ⟨next, ran, own, others⟩ :=
      deserialize_entity entry.2.serializeConfiguration found configured
    obtain ⟨final, rest, remaining, kept⟩ := ih next distinct.2
      (fun other member => connected other (by simp [member]))
      (by
        intro other member
        obtain ⟨old, held, same⟩ := present other (by simp [member])
        refine ⟨old, others other.1 old ?_ held, same⟩
        intro equal
        exact distinct.1 (equal ▸ List.mem_map_of_mem member))
    refine ⟨final, ?_, ?_, ?_⟩
    · -- The items of the later entities follow those of the first one.
      simp only [deserializeConfiguration] at ran rest ⊢
      rw [List.flatMap_cons, List.foldlM_append, ran]
      exact rest
    · intro other member
      rcases List.mem_cons.mp member with rfl | member
      · exact ⟨result, kept _ result distinct.1 own, restored⟩
      · exact remaining other member
    · intro other held absent found'
      simp only [List.map_cons, List.mem_cons, not_or] at absent
      exact kept other held absent.2 (others other held absent.1 found')

/-- Dependency information changes nothing. -/
theorem deserialize_dependencies {r : Redac} {items : List Wire.Item}
    (informative : ∀ item ∈ items, ∃ info, item.kind = some (.dependencyInfo info)) :
    r.deserializeConfiguration items = .ok r := by
  -- The induction is on the items, each of which is passed over.
  induction items with
  | nil => rfl
  | cons item later ih =>
    obtain ⟨info, kind⟩ := informative item (by simp)
    simp only [deserializeConfiguration, List.foldlM_cons, deserializeItem, kind]
    exact ih fun other member => informative other (by simp [member])

/-- The entities' items restore every block on any computer of the same structure. -/
theorem deserialize_serializeEntities (r target : Redac) (same : r.SameStructure target)
    (connected : r.Connected) :
    ∃ restored, target.deserializeConfiguration r.serializeEntities = .ok restored ∧
      ∀ path entity, (path, entity) ∈ r.traversal → entity.Restorable →
        (path, entity) ∈ restored.traversal := by
  -- The target has an entity of the same kind wherever the source has one.
  have present : ∀ entry ∈ r.traversal,
      ∃ old, target.getEntity entry.1 = .ok old ∧ entry.2.shape = old.shape := by
    intro entry member
    have listed : (entry.1, entry.2.shape) ∈
        target.traversal.map fun other => (other.1, other.2.shape) := by
      rw [← same]
      exact List.mem_map.mpr ⟨entry, member, rfl⟩
    obtain ⟨⟨path, old⟩, found, equal⟩ := List.mem_map.mp listed
    simp only [Prod.mk.injEq] at equal
    refine ⟨old, getEntity_of_mem ?_, equal.2.symm⟩
    rw [← equal.1]
    exact found
  obtain ⟨restored, ran, results, _⟩ := deserialize_entries r.traversal target r.unique
    connected present
  refine ⟨restored, ran, fun path entity member restorable => ?_⟩
  obtain ⟨result, found, equal⟩ := results (path, entity) member
  have same : result = entity := equal restorable
  rw [← same]
  exact mem_of_getEntity found

/--
The dependency information of a computer can be computed.

Its carriers and their T-blocks have locations, and for every lane of every cluster the source is
found, in finite time and without an exception.
-/
def Traceable (r : Redac) (registry : Routing) : Prop :=
  ∃ sorted known, r.sortedCarriers = .ok sorted ∧ tracer registry sorted = .ok known ∧
    ∀ carrier ∈ r.carriers, ∀ cluster ∈ carrier.clusters, ∀ lane,
      ∃ signal, Fuel.Settles (fun fuel => r.sinkSignal known fuel cluster lane) signal

/-- Sorting the carriers has looked up every location. -/
theorem requireLoc_of_sorted {r : Redac} {sorted : List (CarrierLoc × Carrier)}
    (located : r.sortedCarriers = .ok sorted) {carrier : Carrier} (member : carrier ∈ r.carriers) :
    ∃ loc, requireLoc carrier.location = .ok loc := by
  simp only [sortedCarriers] at located
  cases all : r.carriers.mapM (fun carrier =>
      (requireLoc carrier.location).map fun loc => (loc, carrier)) with
  | error error => simp [all, bind, Except.bind] at located
  | ok found =>
    obtain ⟨_, _, looked⟩ := Raising.forall₂_target (Raising.mapM_eq_ok.mp all) member
    cases present : requireLoc carrier.location with
    | error error => simp [present, Except.map] at looked
    | ok loc => exact ⟨loc, rfl⟩

/-- The dependency information of a traceable computer is computed. -/
theorem serializeDependencyInfo_settles {r : Redac} {registry : Routing}
    (traceable : r.Traceable registry) :
    ∃ items, Fuel.Settles (r.serializeDependencyInfo registry) items ∧
      ∀ item ∈ items, ∃ info, item.kind = some (.dependencyInfo info) := by
  -- Only the signals depend on the fuel, one search for each lane.
  obtain ⟨sorted, known, located, registered, traced⟩ := traceable
  have found : ∃ found, Fuel.Settles (r.signals known) found := by
    obtain ⟨values, settled⟩ := Fuel.mapM_settles
      (fun fuel (place : Cluster × Fin 32) => r.sinkSignal known fuel place.1 place.2)
      (r.carriers.flatMap fun carrier => carrier.clusters.flatMap fun cluster =>
        (List.finRange 32).map fun lane => (cluster, lane)) (by
      intro place member
      obtain ⟨cluster, lane⟩ := place
      simp only [List.mem_flatMap, List.mem_map, Prod.mk.injEq] at member
      obtain ⟨carrier, carried, cluster', inside, lane', _, rfl, rfl⟩ := member
      exact traced carrier carried cluster' inside lane')
    exact ⟨_, settled.bind (Fuel.settles_pure _)⟩
  obtain ⟨found, enough, returns⟩ := found
  -- Behind the signals only the locations are needed, which the sorting has looked up.
  have items : ∃ items, (r.carriers.mapM fun carrier => ExceptT.mk (some
      (dependencyItem (sorted.map fun located => located.2.path)
        (traces (numberCarriers sorted) found).2 (traces (numberCarriers sorted) found).1
        (activeLanes found) carrier)) : Fueled (List Wire.Item)) = pure items ∧
      ∀ item ∈ items, ∃ info, item.kind = some (.dependencyInfo info) := by
    apply Fuel.mapM_returns r.carriers
    intro carrier member
    obtain ⟨loc, present⟩ := requireLoc_of_sorted located member
    exact ⟨_, by rw [dependencyItem, present]; rfl, _, rfl⟩
  obtain ⟨items, listed, informative⟩ := items
  refine ⟨items, ⟨enough, fun fuel bound => ?_⟩, informative⟩
  simp only [serializeDependencyInfo, located, registered, returned, pure_bind]
  rw [returns fuel bound, pure_bind]
  exact listed

/--
The blocks of a traceable computer are restored on any computer of the same structure.

Serializing returns from some fuel on, and what the target held before does not matter.
-/
theorem configuration_restored (r target : Redac) (registry : Routing)
    (same : r.SameStructure target) (connected : r.Connected)
    (traceable : r.Traceable registry) :
    ∃ items restored, Fuel.Settles (r.serializeConfiguration registry) items ∧
      target.deserializeConfiguration items = .ok restored ∧
      ∀ path entity, (path, entity) ∈ r.traversal → entity.Restorable →
        (path, entity) ∈ restored.traversal := by
  -- The entities' items come first and restore the blocks, the others change nothing.
  obtain ⟨dependencies, settled, informative⟩ := serializeDependencyInfo_settles traceable
  obtain ⟨restored, ran, blocks⟩ := deserialize_serializeEntities r target same connected
  refine ⟨r.serializeEntities ++ dependencies, restored, ?_, ?_, blocks⟩
  · exact settled.bind (Fuel.settles_pure _)
  · simp only [deserializeConfiguration] at ran ⊢
    rw [List.foldlM_append, ran]
    exact deserialize_dependencies informative

/-- A carrier with one cluster of integrators and a T-block, with or without a location. -/
def sampleCarrier (location : Option CarrierLoc) (factor : Factor) : Carrier where
  path := ["AA"]
  location := location
  config := ⟨[], none, none, none⟩
  clusters := [{
    path := ["AA", "0"]
    location := location.map fun loc => ⟨loc.stackId, loc.carrierId, 0⟩
    m0block := some ⟨["AA", "0", "M0"], .int ⟨Vector.replicate 8 ⟨0, 10000⟩, Vector.replicate 8 false⟩⟩
    m1block := none
    ublock := ⟨["AA", "0", "U"], .new⟩
    cblock := ⟨["AA", "0", "C"], ⟨Vector.replicate 32 factor⟩⟩
    iblock := ⟨["AA", "0", "I"], .new⟩ }]
  tblock := some ⟨⟨["AA", "T"], .new⟩, location⟩
  st0block := none
  st1block := none
  st2block := none

/-- A computer with one such carrier. -/
def sample (location : Option CarrierLoc) (factor : Factor) : Redac where
  carriers := [sampleCarrier location factor]
  unique := by
    show [["AA"], ["AA", "0"], ["AA", "T"], ["AA", "0", "M0"], ["AA", "0", "U"], ["AA", "0", "C"],
      ["AA", "0", "I"]].Nodup
    decide

/-- The T-block of the sample has its multiplexers set. -/
theorem sample_connected (location : Option CarrierLoc) (factor : Factor) :
    (sample location factor).Connected := by
  -- Of the seven entities only the T-block has multiplexers.
  intro entry member
  simp only [sample, traversal, sampleCarrier, Carrier.traversal, Cluster.blockEntries,
    List.flatMap_cons, List.flatMap_nil, List.append_nil, List.map_cons, List.map_nil,
    Option.toList_some, Option.toList_none, List.cons_append, List.nil_append, List.mem_cons,
    List.not_mem_nil, or_false] at member
  rcases member with rfl | rfl | rfl | rfl | rfl | rfl | rfl
  · trivial
  · trivial
  · intro k
    simp [TBlock.new, TBlock.identityMuxes, Vector.get_eq_getElem]
  · trivial
  · trivial
  · trivial
  · trivial

/-- A computer without locations is not serialized: looking up the first one raises. -/
theorem sample_unlocated_raises :
    (sample none Factor.default).Connected ∧
      ∀ registry fuel, (sample none Factor.default).serializeConfiguration registry fuel =
        some (.error ⟨.exception, "Location value is not present!"⟩) :=
  ⟨sample_connected none Factor.default, fun _ _ => rfl⟩

/-- The sample with a location can be traced: each lane comes from its own cluster. -/
theorem sample_traceable (factor : Factor) :
    (sample (some ⟨0, 0⟩) factor).Traceable Routing.empty := by
  have sorted : (sample (some ⟨0, 0⟩) factor).sortedCarriers =
      .ok [(⟨0, 0⟩, sampleCarrier (some ⟨0, 0⟩) factor)] := by
    show Except.ok (List.mergeSort
      [((⟨0, 0⟩ : CarrierLoc), sampleCarrier (some ⟨0, 0⟩) factor)] _) = _
    rw [List.mergeSort_singleton]
  refine ⟨_, _, sorted, rfl, ?_⟩
  intro carrier member cluster inside lane
  obtain rfl := List.mem_singleton.mp member
  obtain rfl := List.mem_singleton.mp inside
  -- No output sums a lane, so that no lane has a signal.
  refine ⟨none, 1, fun fuel bound => ?_⟩
  obtain ⟨fuel, rfl⟩ := Nat.exists_eq_add_of_le' bound
  fin_cases lane <;> rfl

/-- The factors of the sample replace others, and its integrators stay. -/
theorem configuration_restored_sample :
    ∃ items restored,
      Fuel.Settles ((sample (some ⟨0, 0⟩) Factor.default).serializeConfiguration Routing.empty)
        items ∧
      (sample none ⟨0, by norm_num⟩).deserializeConfiguration items = .ok restored ∧
      (["AA", "0", "C"], .cBlock ⟨Vector.replicate 32 Factor.default⟩) ∈ restored.traversal := by
  -- The two samples differ in their factors and locations, not in their structure.
  obtain ⟨items, restored, settled, applied, blocks⟩ := configuration_restored
    (sample (some ⟨0, 0⟩) Factor.default) (sample none ⟨0, by norm_num⟩) Routing.empty rfl
    (sample_connected _ _) (sample_traceable _)
  refine ⟨items, restored, settled, applied, blocks _ _ ?_ trivial⟩
  simp [sample, traversal, sampleCarrier, Carrier.traversal, Cluster.blockEntries, Node.entry,
    BlockKind.inject]

end Redac

end Pybrid
