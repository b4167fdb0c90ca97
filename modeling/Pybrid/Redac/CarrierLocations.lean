import Pybrid.Redac.ConnectionTopology
import Pybrid.Redac.Discovery

/-! The locations of the carriers that a controller discovers. -/

namespace Pybrid

namespace LucidacDeserializer

variable {C : Type} {registry : List (EntityType × C)}

/-- Something that does not count returns what it returned, at the same count. -/
theorem CounterM.ofExcept_eq_ok {α : Type} {result : Except PyError α} {value : α}
    {counter after : Nat} :
    CounterM.ofExcept result counter = .ok value after ↔ result = .ok value ∧ counter = after := by
  cases result <;> simp [CounterM.ofExcept]

/-- A location that was handed down is kept, and nothing is counted. -/
theorem defaultLocation_of_some {entity : PbEntity} {loc : EntityLoc} {counter : Nat} :
    defaultLocation entity (some loc) counter = .ok (some loc) counter := rfl

/-- Building below a location counts nothing. -/
def Uncounted (dispatch : PbEntity → Path → Option EntityLoc → CounterM (Found C)) : Prop :=
  ∀ entity path loc before found after, dispatch entity path (some loc) before = .ok found after →
    before = after

/-- A function block is where it was to be built. -/
theorem specFunctionBlock_location {entity : PbEntity} {path : Path} {location : Option EntityLoc}
    {block : BlockTree C}
    (made : RedacDeserializer.specFunctionBlock registry entity path location = .ok block) :
    block.location = location := by
  simp only [RedacDeserializer.specFunctionBlock, Raising.except_bind_eq_ok,
    Raising.except_pure_eq_ok] at made
  obtain ⟨_, _, _, _, rfl⟩ := made
  rfl

/-- A child leaves the location of the carrier, and its T-block is where the carrier is. -/
theorem addChild_keeps {dispatch : PbEntity → Path → Option EntityLoc → CounterM (Found C)}
    (uncounted : Uncounted dispatch) {carrier added : FrontedCarrier (Found C) C} {child : PbEntity}
    {loc : EntityLoc} {before after : Nat} (located : carrier.location = some loc)
    (below : ∀ block ∈ carrier.tblock, block.location = some loc)
    (ran : addChild registry dispatch carrier child before = .ok added after) :
    (added.location = some loc ∧ ∀ block ∈ added.tblock, block.location = some loc) ∧
      before = after := by
  simp only [addChild] at ran
  obtain ⟨path, _, parsed, ran⟩ := Raising.bind_eq_ok.mp ran
  obtain ⟨-, rfl⟩ := CounterM.ofExcept_eq_ok.mp parsed
  obtain ⟨id, _, named, ran⟩ := Raising.bind_eq_ok.mp ran
  obtain ⟨-, rfl⟩ := CounterM.ofExcept_eq_ok.mp named
  -- The name of the child decides what it is added as.
  split_ifs at ran
  · obtain ⟨rfl, rfl⟩ := Raising.pure_eq_ok.mp ran
    exact ⟨⟨located, below⟩, rfl⟩
  · obtain ⟨block, _, built, ran⟩ := Raising.bind_eq_ok.mp ran
    obtain ⟨made, rfl⟩ := CounterM.ofExcept_eq_ok.mp built
    obtain ⟨rfl, rfl⟩ := Raising.pure_eq_ok.mp ran
    refine ⟨⟨located, fun other held => ?_⟩, rfl⟩
    obtain rfl := Option.some.inj held
    exact (specFunctionBlock_location made).trans located
  · obtain ⟨block, _, built, ran⟩ := Raising.bind_eq_ok.mp ran
    obtain ⟨-, rfl⟩ := CounterM.ofExcept_eq_ok.mp built
    obtain ⟨rfl, rfl⟩ := Raising.pure_eq_ok.mp ran
    exact ⟨⟨located, below⟩, rfl⟩
  · obtain ⟨block, _, built, ran⟩ := Raising.bind_eq_ok.mp ran
    obtain ⟨-, rfl⟩ := CounterM.ofExcept_eq_ok.mp built
    obtain ⟨rfl, rfl⟩ := Raising.pure_eq_ok.mp ran
    exact ⟨⟨located, below⟩, rfl⟩
  · obtain ⟨block, _, built, ran⟩ := Raising.bind_eq_ok.mp ran
    obtain ⟨-, rfl⟩ := CounterM.ofExcept_eq_ok.mp built
    obtain ⟨rfl, rfl⟩ := Raising.pure_eq_ok.mp ran
    exact ⟨⟨located, below⟩, rfl⟩
  · obtain ⟨rfl, rfl⟩ := Raising.pure_eq_ok.mp ran
    exact ⟨⟨located, below⟩, rfl⟩
  · -- A cluster is built below a location, where nothing is counted.
    obtain ⟨cluster, _, built, ran⟩ := Raising.bind_eq_ok.mp ran
    rw [located] at built
    obtain rfl := uncounted _ _ _ _ _ _ built
    obtain ⟨rfl, rfl⟩ := Raising.pure_eq_ok.mp ran
    exact ⟨⟨located, below⟩, rfl⟩
  · obtain ⟨rfl, rfl⟩ := Raising.pure_eq_ok.mp ran
    exact ⟨⟨located, below⟩, rfl⟩

/-- The location a carrier is built at, and the count behind it. -/
def place (entity : PbEntity) (location : Option EntityLoc) (counter : Nat) : EntityLoc × Nat :=
  match entity.locationV0, location with
  | some (stack, carrier), _ => ([(stack : Int), (carrier : Int)], counter)
  | none, some loc => (loc, counter)
  | none, none => ([0, (counter : Int)], counter + 1)

/-- The default and what is reported make the place. -/
theorem defaultLocation_place {entity : PbEntity} {location given : Option EntityLoc}
    {before middle : Nat} (defaulted : defaultLocation entity location before = .ok given middle) :
    reportedLocation entity given = some (place entity location before).1 ∧
      middle = (place entity location before).2 := by
  -- A location that is reported wins; without any the counter gives one.
  cases reported : entity.locationV0 with
  | some loc =>
    simp only [defaultLocation, reported, reduceCtorEq, and_false, if_false] at defaulted
    obtain ⟨rfl, rfl⟩ := Raising.pure_eq_ok.mp defaulted
    simp [reportedLocation, place, reported]
  | none =>
    cases location with
    | some loc =>
      obtain ⟨rfl, rfl⟩ := EStateM.Result.ok.inj (defaultLocation_of_some.symm.trans defaulted)
      simp [reportedLocation, place, reported]
    | none =>
      have counted : defaultLocation entity none before =
          .ok (some [0, (before : Int)]) (before + 1) := by
        simp only [defaultLocation, reported, and_self, if_true]
        rfl
      obtain ⟨rfl, rfl⟩ := EStateM.Result.ok.inj (counted.symm.trans defaulted)
      simp [reportedLocation, place, reported]

/-- A carrier is built at its place. -/
theorem specCarrier_place {dispatch : PbEntity → Path → Option EntityLoc → CounterM (Found C)}
    (uncounted : Uncounted dispatch) {entity : PbEntity} {path : Path} {location : Option EntityLoc}
    {carrier : FrontedCarrier (Found C) C} {before after : Nat}
    (ran : specCarrier registry dispatch entity path location before = .ok carrier after) :
    carrier.location = some (place entity location before).1 ∧
      (∀ block ∈ carrier.tblock, block.location = carrier.location) ∧
      after = (place entity location before).2 := by
  simp only [specCarrier] at ran
  obtain ⟨given, middle, defaulted, ran⟩ := Raising.bind_eq_ok.mp ran
  obtain ⟨type, _, popped, ran⟩ := Raising.bind_eq_ok.mp ran
  obtain ⟨-, rfl⟩ := CounterM.ofExcept_eq_ok.mp popped
  split_ifs at ran with other
  · obtain ⟨_, _, raised, _⟩ := Raising.bind_eq_ok.mp ran
    exact absurd raised Raising.throw_ne_ok
  have start := defaultLocation_place defaulted
  rw [start.1] at ran
  -- The children are added behind the location, which none of them changes.
  have kept := Raising.foldlM_invariant
    (fun (built : FrontedCarrier (Found C) C) counter =>
      (built.location = some (place entity location before).1 ∧
        ∀ block ∈ built.tblock, block.location = some (place entity location before).1) ∧
        middle = counter)
    (fun built child counter built' counter' held stepped => by
      obtain ⟨fixed, same⟩ := addChild_keeps uncounted held.1.1 held.1.2 stepped
      exact ⟨fixed, held.2.trans same⟩) ⟨⟨rfl, fun _ none => by cases none⟩, rfl⟩ ran
  refine ⟨kept.1.1, ?_, kept.2 ▸ start.2⟩
  rw [kept.1.1]
  exact kept.1.2

/-- Below a location nothing is counted, however deep the tree is. -/
theorem deserializeSpecification_uncounted (depth : Nat) :
    Uncounted (deserializeSpecification registry depth) := by
  -- The induction is on the depth, because a carrier builds its clusters one level further down.
  induction depth with
  | zero =>
    intro entity path loc before found after ran
    exact absurd ran Raising.throw_ne_ok
  | succ depth ih =>
    intro entity path loc before found after ran
    rw [deserializeSpecification] at ran
    obtain ⟨class_, _, known, ran⟩ := Raising.bind_eq_ok.mp ran
    obtain ⟨-, rfl⟩ := CounterM.ofExcept_eq_ok.mp known
    split at ran
    · -- A device is never below a location.
      obtain ⟨_, _, raised, _⟩ := Raising.bind_eq_ok.mp ran
      exact absurd raised Raising.throw_ne_ok
    · obtain ⟨carrier, _, built, ran⟩ := Raising.bind_eq_ok.mp ran
      obtain ⟨-, rfl⟩ := Raising.pure_eq_ok.mp ran
      obtain ⟨-, -, counted⟩ := specCarrier_place ih built
      rw [counted]
      cases reported : entity.locationV0 <;> simp [place, reported]
    · obtain ⟨cluster, _, built, ran⟩ := Raising.bind_eq_ok.mp ran
      obtain ⟨-, rfl⟩ := CounterM.ofExcept_eq_ok.mp built
      exact (Raising.pure_eq_ok.mp ran).2
    · obtain ⟨block, _, built, ran⟩ := Raising.bind_eq_ok.mp ran
      obtain ⟨-, rfl⟩ := CounterM.ofExcept_eq_ok.mp built
      exact (Raising.pure_eq_ok.mp ran).2

/-- The class with a number has that number. -/
theorem value_of_ofValue {value : Nat} {class_ : EntityClass}
    (known : EntityClass.ofValue value = .ok class_) : class_.value = value := by
  simp only [EntityClass.ofValue] at known
  -- The class that is found is one with this value.
  split at known
  · rename_i found listed
    obtain rfl := Except.ok.inj known
    simpa using List.find?_some listed
  · cases known

/-- The places of carriers that are built one after the other. -/
def places : Nat → List PbEntity → List EntityLoc
  | _, [] => []
  | counter, entity :: later =>
    (place entity none counter).1 :: places (place entity none counter).2 later

/-- A carrier has a location of two parts, and its T-block is there. -/
def Placed (carrier : FrontedCarrier (Found C) C) : Prop :=
  (∃ stack number, carrier.location = some [stack, number]) ∧
    ∀ block ∈ carrier.tblock, block.location = carrier.location

/-- A place that is not handed down has two parts. -/
theorem place_parts (entity : PbEntity) (counter : Nat) :
    ∃ stack number, (place entity none counter).1 = [stack, number] := by
  -- Without a reported location the counter stands in for it.
  cases reported : entity.locationV0 with
  | some loc => exact ⟨loc.1, loc.2, by simp [place, reported]⟩
  | none => exact ⟨0, counter, by simp [place, reported]⟩

/-- A carrier that is built on its own is at the next place. -/
theorem deserializeSpecification_carrier {depth : Nat} {entity : PbEntity} {path : Path}
    {carrier : FrontedCarrier (Found C) C} {before after : Nat}
    (ran : deserializeSpecification registry depth entity path none before =
      .ok (.carrier carrier) after) :
    entity.class_ = EntityClass.carrier.value ∧
      carrier.location = some (place entity none before).1 ∧ Placed carrier ∧
      after = (place entity none before).2 := by
  cases depth with
  | zero => exact absurd ran Raising.throw_ne_ok
  | succ depth =>
    rw [deserializeSpecification] at ran
    obtain ⟨class_, _, known, ran⟩ := Raising.bind_eq_ok.mp ran
    obtain ⟨numbered, rfl⟩ := CounterM.ofExcept_eq_ok.mp known
    -- Only the handler of carriers builds one.
    split at ran
    · obtain ⟨_, _, _, ran⟩ := Raising.bind_eq_ok.mp ran
      cases (Raising.pure_eq_ok.mp ran).1
    · obtain ⟨built, _, ran', ran⟩ := Raising.bind_eq_ok.mp ran
      obtain ⟨same, rfl⟩ := Raising.pure_eq_ok.mp ran
      obtain rfl := Found.carrier.inj same
      obtain ⟨located, below, counted⟩ :=
        specCarrier_place (deserializeSpecification_uncounted depth) ran'
      obtain ⟨stack, number, parts⟩ := place_parts entity before
      exact ⟨(value_of_ofValue numbered).symm, located, ⟨⟨stack, number, parts ▸ located⟩, below⟩,
        counted⟩
    · obtain ⟨_, _, _, ran⟩ := Raising.bind_eq_ok.mp ran
      cases (Raising.pure_eq_ok.mp ran).1
    · obtain ⟨_, _, _, ran⟩ := Raising.bind_eq_ok.mp ran
      cases (Raising.pure_eq_ok.mp ran).1

/-- The carriers below a device are at the next places, if all of them are carriers. -/
theorem mapM_carriers {depth : Nat} {children : List PbEntity} :
    ∀ {carriers : List (FrontedCarrier (Found C) C)} {before after : Nat},
      (children.mapM fun (child : PbEntity) => do
        let below ← CounterM.ofExcept (Path.parse child.id)
        deserializeSpecification registry depth child below none) before =
          .ok (carriers.map .carrier) after →
      (∀ child ∈ children, child.class_ = EntityClass.carrier.value) ∧
        carriers.map (·.location) = (places before children).map some ∧
        ∀ carrier ∈ carriers, Placed carrier := by
  -- The counter goes on from one child to the next.
  induction children with
  | nil =>
    intro carriers before after ran
    rw [List.mapM_nil] at ran
    obtain ⟨empty, -⟩ := Raising.pure_eq_ok.mp ran
    obtain rfl := List.map_eq_nil_iff.mp empty.symm
    simp [places]
  | cons child later ih =>
    intro carriers before after ran
    rw [List.mapM_cons] at ran
    obtain ⟨found, middle, first, ran⟩ := Raising.bind_eq_ok.mp ran
    obtain ⟨others, _, rest, ran⟩ := Raising.bind_eq_ok.mp ran
    obtain ⟨same, rfl⟩ := Raising.pure_eq_ok.mp ran
    obtain ⟨carrier, carriers, rfl, rfl, rfl⟩ := List.map_eq_cons_iff.mp same.symm
    obtain ⟨_, _, parsed, built⟩ := Raising.bind_eq_ok.mp first
    obtain ⟨-, rfl⟩ := CounterM.ofExcept_eq_ok.mp parsed
    obtain ⟨reported, located, placed, rfl⟩ := deserializeSpecification_carrier built
    obtain ⟨classes, locations, each⟩ := ih rest
    refine ⟨List.forall_mem_cons.mpr ⟨reported, classes⟩, ?_,
      List.forall_mem_cons.mpr ⟨placed, each⟩⟩
    rw [List.map_cons, located, locations, places, List.map_cons]

/-- A device is built of an entity of that class, with what is built of the children. -/
theorem deserializeSpecification_device {depth : Nat} {entity : PbEntity} {path built : Path}
    {carriers : List (Found C)} {before after : Nat}
    (ran : deserializeSpecification registry depth entity path none before =
      .ok (.device built carriers) after) :
    entity.class_ = EntityClass.device.value ∧ ∃ below middle,
      (entity.children.mapM fun (child : PbEntity) => do
        let inside ← CounterM.ofExcept (Path.parse child.id)
        deserializeSpecification registry below child inside none) before =
          .ok carriers middle := by
  cases depth with
  | zero => exact absurd ran Raising.throw_ne_ok
  | succ depth =>
    rw [deserializeSpecification] at ran
    obtain ⟨class_, _, known, ran⟩ := Raising.bind_eq_ok.mp ran
    obtain ⟨numbered, rfl⟩ := CounterM.ofExcept_eq_ok.mp known
    -- Of the four kinds of entities only a device ends as one.
    split at ran
    · obtain ⟨others, middle, mapped, ran⟩ := Raising.bind_eq_ok.mp ran
      obtain ⟨same, rfl⟩ := Raising.pure_eq_ok.mp ran
      obtain ⟨rfl, rfl⟩ := Found.device.inj same
      exact ⟨(value_of_ofValue numbered).symm, depth, middle, mapped⟩
    · obtain ⟨_, _, _, ran⟩ := Raising.bind_eq_ok.mp ran
      cases (Raising.pure_eq_ok.mp ran).1
    · obtain ⟨_, _, _, ran⟩ := Raising.bind_eq_ok.mp ran
      cases (Raising.pure_eq_ok.mp ran).1
    · obtain ⟨_, _, _, ran⟩ := Raising.bind_eq_ok.mp ran
      cases (Raising.pure_eq_ok.mp ran).1

end LucidacDeserializer

namespace BlockRegistry

variable {C K : Type}

/-- Reading a location does not touch the registry. -/
theorem locationOf_eq {block : BlockTree C} {loc : EntityLoc} (there : block.location = some loc)
    (r : BlockRegistry C) : locationOf block r = .ok loc r := by
  simp [locationOf, there, requireLoc]

/-- Backplane blocks do not touch those of the carriers. -/
theorem addTBplBlock_leaves (index : Nat) (block : BlockTree C) :
    Raising.Leaves (·.carrierTBlocks) (addTBplBlock index block) := by
  refine .bind (fun r => ?_) fun loc => ?_
  · rw [locationOf]
    cases requireLoc block.location <;> rfl
  · -- A location without a stack raises, and changes nothing.
    split
    · exact .throw _
    · exact fun r => rfl

/-- Of a carrier with a place, its T-block is registered there. -/
theorem addCarrier_carriers {carrier : FrontedCarrier (Found C) C} {loc : EntityLoc}
    {r r' : BlockRegistry C} (placed : LucidacDeserializer.Placed carrier)
    (located : carrier.location = some loc) (ran : addCarrier carrier r = .ok () r') :
    r'.carrierTBlocks = Function.update r.carrierTBlocks loc
      (carrier.tblock.or (r.carrierTBlocks loc)) := by
  obtain ⟨_, middle, own, planes⟩ := Raising.bind_eq_ok.mp ran
  -- The backplane blocks come behind, and leave the T-blocks as they are.
  have behind : Raising.Leaves (·.carrierTBlocks) (do
      carrier.st0block.toList.forM (addTBplBlock 0)
      carrier.st1block.toList.forM (addTBplBlock 1)
      carrier.st2block.toList.forM (addTBplBlock 2)) :=
    .bind (.forM (addTBplBlock_leaves 0) _) fun _ =>
      .bind (.forM (addTBplBlock_leaves 1) _) fun _ => .forM (addTBplBlock_leaves 2) _
  have same := behind middle
  simp only [planes, Raising.final] at same
  rw [same]
  obtain ⟨⟨stack, number, parts⟩, below⟩ := placed
  obtain rfl := Option.some.inj (parts.symm.trans located)
  cases carried : carrier.tblock with
  | none =>
    rw [carried] at own
    obtain ⟨-, rfl⟩ := Raising.pure_eq_ok.mp own
    exact (Function.update_eq_self _ r.carrierTBlocks).symm
  | some block =>
    rw [carried] at own
    obtain ⟨_, after, added, last⟩ := Raising.bind_eq_ok.mp own
    obtain ⟨-, rfl⟩ := Raising.pure_eq_ok.mp last
    rw [addTBlock, Raising.bind_of_ok (locationOf_eq ((below block carried).trans parts) r)] at added
    obtain ⟨-, rfl⟩ := EStateM.Result.ok.inj added
    rfl

end BlockRegistry

namespace Discovery

open LucidacDeserializer

variable {C : Type} {registry : List (EntityType × C)} {depth : Nat}

namespace DiscoveredComputer

/-- Every carrier has a place, and while these are different its T-block is registered there. -/
structure Sound (computer : DiscoveredComputer C) : Prop where
  placed : ∀ carrier ∈ computer.carriers, Placed carrier
  registered : (computer.carriers.map (·.location)).Nodup → ∀ carrier ∈ computer.carriers,
    ∀ block ∈ carrier.tblock, ∀ loc ∈ carrier.location,
      computer.router.carrierTBlocks loc = some block

/-- Adding a carrier returns when its blocks can be registered. -/
theorem addCarrier_eq_ok {computer after : DiscoveredComputer C}
    {carrier : FrontedCarrier (Found C) C} :
    DiscoveredComputer.addCarrier (.carrier carrier) computer = .ok () after ↔
      ∃ router, BlockRegistry.addCarrier carrier computer.router = .ok () router ∧
        after = ⟨computer.carriers ++ [carrier], router⟩ := by
  simp only [DiscoveredComputer.addCarrier]
  -- The carrier is listed only if its blocks could be registered.
  cases BlockRegistry.addCarrier carrier computer.router with
  | ok _ router => simp [eq_comm]
  | error error router => simp

/-- Adding a carrier with a place keeps the computer sound. -/
theorem Sound.addCarrier {computer after : DiscoveredComputer C} (sound : computer.Sound)
    {carrier : FrontedCarrier (Found C) C} (placed : Placed carrier)
    (ran : DiscoveredComputer.addCarrier (.carrier carrier) computer = .ok () after) :
    after.Sound := by
  obtain ⟨router, added, rfl⟩ := addCarrier_eq_ok.mp ran
  refine ⟨fun other member => ?_, fun distinct other member block held loc located => ?_⟩
  · rcases List.mem_append.mp member with old | new
    · exact sound.placed other old
    · rw [List.mem_singleton.mp new]
      exact placed
  · rw [List.map_append, List.nodup_append] at distinct
    obtain ⟨stack, number, parts⟩ := placed.1
    have registered := BlockRegistry.addCarrier_carriers placed parts added
    show router.carrierTBlocks loc = some block
    rw [registered]
    rcases List.mem_append.mp member with old | new
    · -- The new carrier is elsewhere, so that this block stays registered.
      have before := sound.registered distinct.1 other old block held loc located
      have elsewhere : loc ≠ [stack, number] := by
        rintro rfl
        have there : other.location = carrier.location := by rw [located, parts]
        exact distinct.2.2 _ (List.mem_map_of_mem old) _ (List.mem_map_of_mem
          (List.mem_singleton_self carrier)) there
      rw [Function.update_of_ne elsewhere, before]
    · obtain rfl := List.mem_singleton.mp new
      obtain rfl := Option.some.inj (located.symm.trans parts)
      rw [held]
      simp

/-- Locations are numbered in order, if no two of them are the same. -/
theorem numbers_of_nodup {sorted : List (EntityLoc × FrontedCarrier (Found C) C)}
    (distinct : (sorted.map Prod.fst).Nodup) : numbers sorted = sorted.map Prod.fst := by
  -- The induction is from the end, because numbers are given behind those given before.
  induction sorted using List.reverseRecOn with
  | nil => rfl
  | append_singleton earlier last ih =>
    rw [List.map_append, List.nodup_append] at distinct
    have fresh : last.1 ∉ earlier.map Prod.fst := fun member =>
      distinct.2.2 _ member _ (List.mem_singleton_self last.1) rfl
    have before : numbers earlier = earlier.map Prod.fst := ih distinct.1
    simp only [numbers] at before
    simp only [numbers, List.foldl_append, List.foldl_cons, List.foldl_nil, before, if_neg fresh,
      List.map_append, List.map_cons, List.map_nil]

/--
The carriers of a computer do not get into each other's way.

Each T-block is registered, each cluster found and each path listed at the place of its carrier.
-/
structure Separate (computer : DiscoveredComputer C) : Prop where
  distinct : (computer.carriers.map (·.location)).Nodup
  registered : ∀ carrier ∈ computer.carriers, ∀ block ∈ carrier.tblock,
    ∀ loc ∈ carrier.location, computer.router.carrierTBlocks loc = some block
  found : ∀ carrier ∈ computer.carriers, ∀ loc ∈ carrier.location, ∀ index : Int,
    computer.findCluster (loc ++ [index]) =
      (Python.subscript carrier.clusters.length index).map carrier.clusters.get
  numbered : ∃ sorted, computer.sortedCarriers = .ok sorted ∧ ∀ carrier ∈ computer.carriers,
    ∀ loc ∈ carrier.location, (entityIds sorted)[(numbers sorted).idxOf loc]? = some carrier.path

/-- The first carrier at a location is the only one there. -/
theorem find_located {computer : DiscoveredComputer C} {carrier : FrontedCarrier (Found C) C}
    (distinct : (computer.carriers.map (·.location)).Nodup) (member : carrier ∈ computer.carriers) :
    (computer.carriers.find? fun other => other.location = carrier.location) = some carrier := by
  -- No carrier before this one is at its location.
  obtain ⟨earlier, later, split⟩ := List.append_of_mem member
  rw [split, List.map_append, List.nodup_append] at distinct
  rw [split, List.find?_append, List.find?_eq_none.mpr, Option.none_or, List.find?_cons_of_pos]
  · exact decide_eq_true rfl
  · intro other before same
    exact distinct.2.2 _ (List.mem_map_of_mem before) _ (List.mem_map_of_mem List.mem_cons_self)
      (of_decide_eq_true same)

/-- The clusters of a carrier are found at its place. -/
theorem findCluster_located {computer : DiscoveredComputer C} (sound : computer.Sound)
    {carrier : FrontedCarrier (Found C) C}
    (distinct : (computer.carriers.map (·.location)).Nodup) (member : carrier ∈ computer.carriers)
    {loc : EntityLoc} (located : loc ∈ carrier.location) (index : Int) :
    computer.findCluster (loc ++ [index]) =
      (Python.subscript carrier.clusters.length index).map carrier.clusters.get := by
  obtain ⟨stack, number, parts⟩ := (sound.placed carrier member).1
  obtain rfl := Option.some.inj (parts.symm.trans located)
  have first := find_located distinct member
  rw [parts] at first
  -- The first two parts are the carrier's location, the third one is the cluster.
  have taken : List.take 2 ([stack, number] ++ [index]) = [stack, number] := rfl
  have last : ([stack, number] ++ [index])[2]? = some index := rfl
  unfold findCluster
  rw [if_neg (by simp)]
  simp only [taken, first, last]

/-- What is read off the entry under a key stands where the key stands. -/
theorem entry_at_idxOf {κ ω β : Type} [BEq κ] [LawfulBEq κ] {entries : List (κ × ω)} {key : κ}
    {value : ω} (distinct : (entries.map Prod.fst).Nodup) (member : (key, value) ∈ entries)
    (read : κ × ω → β) :
    (entries.map read)[(entries.map Prod.fst).idxOf key]? = some (read (key, value)) := by
  -- The key is that of the first entry, or of one behind it.
  induction entries with
  | nil => cases member
  | cons entry later ih =>
    rw [List.map_cons, List.nodup_cons] at distinct
    rcases List.mem_cons.mp member with rfl | behind
    · simp
    · have other : entry.1 ≠ key := fun same =>
        distinct.1 (same ▸ List.mem_map_of_mem behind)
      rw [List.map_cons, List.map_cons, List.idxOf_cons_ne _ other, List.getElem?_cons_succ]
      exact ih distinct.2 behind

/-- The path of a carrier is listed under its number. -/
theorem entityIds_located {computer : DiscoveredComputer C} (sound : computer.Sound)
    (distinct : (computer.carriers.map (·.location)).Nodup) :
    ∃ sorted, computer.sortedCarriers = .ok sorted ∧ ∀ carrier ∈ computer.carriers,
      ∀ loc ∈ carrier.location,
        (entityIds sorted)[(numbers sorted).idxOf loc]? = some carrier.path := by
  -- No carrier is without a location, so that they are sorted.
  have located : computer.carriers.mapM (fun carrier =>
      (requireLoc carrier.location).map fun loc => (loc, carrier)) =
        .ok (computer.carriers.map fun carrier => (carrier.location.getD [], carrier)) := by
    rw [Raising.mapM_eq_ok, List.forall₂_map_right_iff, List.forall₂_same]
    intro carrier member
    obtain ⟨stack, number, parts⟩ := (sound.placed carrier member).1
    rw [parts]
    rfl
  refine ⟨_, by rw [sortedCarriers, located]; rfl, fun carrier member loc there => ?_⟩
  -- Sorting changes neither which carriers there are nor that their locations differ.
  have sorted := List.mergeSort_perm
    (computer.carriers.map fun carrier => (carrier.location.getD [], carrier))
    fun first second => ¬ second.1 < first.1
  have keys : ((computer.carriers.map fun carrier =>
      (carrier.location.getD [], carrier)).map Prod.fst).Nodup := by
    rw [List.map_map]
    refine List.Nodup.map_on ?_ (List.Nodup.of_map _ distinct)
    intro first inside second also same
    obtain ⟨_, _, parts⟩ := (sound.placed first inside).1
    obtain ⟨_, _, others⟩ := (sound.placed second also).1
    refine List.inj_on_of_nodup_map distinct inside also ?_
    simpa [parts, others] using same
  rw [numbers_of_nodup ((sorted.map Prod.fst).nodup_iff.mpr keys)]
  refine entry_at_idxOf ((sorted.map Prod.fst).nodup_iff.mpr keys) (sorted.mem_iff.mpr ?_)
    fun located => located.2.path
  refine List.mem_map.mpr ⟨carrier, member, ?_⟩
  rw [Option.mem_def.mp there]
  rfl

/-- A sound computer whose carriers have different locations keeps them separate. -/
theorem Sound.separate_iff {computer : DiscoveredComputer C} (sound : computer.Sound) :
    computer.Separate ↔ (computer.carriers.map (·.location)).Nodup :=
  ⟨Separate.distinct, fun distinct => ⟨distinct, sound.registered distinct,
    fun _ member _ located index => findCluster_located sound distinct member located index,
    entityIds_located sound distinct⟩⟩

end DiscoveredComputer

namespace Controller

/-- Something that changes nothing returns what it returned. -/
theorem ofExcept_eq_ok {α : Type} {result : Except PyError α} {value : α}
    {controller after : Controller C} :
    ofExcept result controller = .ok value after ↔ result = .ok value ∧ controller = after := by
  cases result <;> simp [ofExcept]

/-- What is built of an entity is at the places of the carriers it reports. -/
theorem built_places {entity : PbEntity} {carriers : List (FrontedCarrier (Found C) C)}
    (ran : built registry depth entity = .ok (carriers.map .carrier)) :
    carriers.map (·.location) =
      (places 0 (ConnectionManager.reportedCarriers entity)).map some ∧
      ∀ carrier ∈ carriers, Placed carrier := by
  simp only [built, Raising.except_bind_eq_ok] at ran
  obtain ⟨root, -, ran⟩ := ran
  -- An entity that ends as something else than carriers is excluded.
  split at ran
  · cases ran
  · -- A device reports all of its children, since all of them are carriers.
    rename_i ended
    obtain rfl := Raising.except_pure_eq_ok.mp ran
    obtain ⟨device, below, middle, mapped⟩ := deserializeSpecification_device ended
    obtain ⟨classes, locations, each⟩ := mapM_carriers mapped
    have reported : ConnectionManager.reportedCarriers entity = entity.children := by
      rw [ConnectionManager.reportedCarriers, device, if_neg (by decide), List.filter_eq_self]
      exact fun child member => decide_eq_true (classes child member)
    rw [reported]
    exact ⟨locations, each⟩
  · rename_i result after other ended
    have single := Raising.except_pure_eq_ok.mp ran
    obtain ⟨carrier, rfl, rfl⟩ : ∃ carrier, carriers = [carrier] ∧ result = .carrier carrier := by
      obtain ⟨carrier, later, rfl, same, rest⟩ := List.map_eq_cons_iff.mp single.symm
      obtain rfl := List.map_eq_nil_iff.mp rest
      exact ⟨carrier, rfl, same.symm⟩
    obtain ⟨class_, located, placed, -⟩ := deserializeSpecification_carrier ended
    rw [ConnectionManager.reportedCarriers, if_pos class_]
    simp [places, located, placed]

/-- Adding something returns if it is a carrier, which the computer then has. -/
theorem addCarrier_returned {found : Found C} {controller after : Controller C}
    (ran : addCarrier found controller = .ok () after) :
    ∃ carrier, found = .carrier carrier ∧
      DiscoveredComputer.addCarrier (.carrier carrier) controller.computer =
        .ok () after.computer ∧
      after.computer.carriers = controller.computer.carriers ++ [carrier] := by
  obtain ⟨_, middle, lifted, ended⟩ := Raising.bind_eq_ok.mp ran
  rw [onComputer] at lifted
  split at lifted
  case h_2 => cases lifted
  case h_1 computer added =>
    obtain ⟨-, rfl⟩ := EStateM.Result.ok.inj lifted
    cases found with
    | carrier carrier =>
      obtain ⟨-, rfl⟩ := EStateM.Result.ok.inj ended
      obtain ⟨router, -, rfl⟩ := DiscoveredComputer.addCarrier_eq_ok.mp added
      exact ⟨carrier, rfl, added, rfl⟩
    -- What is no carrier raises.
    | block block => cases added
    | cluster cluster => cases added
    | device path carriers => cases added

/-- Adding several returns if all of them are carriers, which the computer then has. -/
theorem addCarriers_returned {founds : List (Found C)} {controller after : Controller C}
    (ran : founds.forM addCarrier controller = .ok () after) :
    ∃ carriers : List (FrontedCarrier (Found C) C), founds = carriers.map .carrier ∧
      after.computer.carriers = controller.computer.carriers ++ carriers ∧
      (controller.computer.Sound → (∀ carrier ∈ carriers, Placed carrier) →
        after.computer.Sound) := by
  -- All that is found has to be carriers, or adding it raises.
  induction founds generalizing controller with
  | nil =>
    obtain ⟨-, rfl⟩ := Raising.pure_eq_ok.mp ran
    exact ⟨[], rfl, (List.append_nil _).symm, fun sound _ => sound⟩
  | cons found later ih =>
    obtain ⟨_, middle, first, rest⟩ := Raising.bind_eq_ok.mp ran
    obtain ⟨carrier, rfl, added, listed⟩ := addCarrier_returned first
    obtain ⟨carriers, rfl, all, sound⟩ := ih rest
    refine ⟨carrier :: carriers, rfl, by rw [all, listed]; simp, fun before each => ?_⟩
    exact sound (before.addCarrier (each carrier List.mem_cons_self) added)
      fun other member => each other (List.mem_cons_of_mem carrier member)

/-- Adding an entity returns if carriers are built of it, which the computer then has. -/
theorem addEntity_returned {entity : PbEntity} {controller after : Controller C}
    (ran : addEntity registry depth entity controller = .ok () after) :
    ∃ carriers : List (FrontedCarrier (Found C) C),
      built registry depth entity = .ok (carriers.map .carrier) ∧
      after.computer.carriers = controller.computer.carriers ++ carriers ∧
      (controller.computer.Sound → after.computer.Sound) := by
  obtain ⟨founds, _, lifted, rest⟩ := Raising.bind_eq_ok.mp ran
  -- Building an entity does not look at the controller.
  obtain ⟨made, rfl⟩ := ofExcept_eq_ok.mp lifted
  obtain ⟨_, middle, added, ended⟩ := Raising.bind_eq_ok.mp rest
  obtain ⟨carriers, rfl, listed, sound⟩ := addCarriers_returned added
  obtain ⟨-, rfl⟩ := EStateM.Result.ok.inj ended
  exact ⟨carriers, made, listed, fun before => sound before (built_places made).2⟩

/-- The places of the carriers that entities report. -/
def reportedPlaces (entities : List PbEntity) : List EntityLoc :=
  entities.flatMap fun entity => places 0 (ConnectionManager.reportedCarriers entity)

/-- Adding entities adds carriers at the places of those they report. -/
theorem addEntities_places {entities : List PbEntity} {controller after : Controller C}
    (ran : entities.forM (addEntity registry depth) controller = .ok () after)
    (sound : controller.computer.Sound) :
    after.computer.Sound ∧ after.computer.carriers.map (·.location) =
      controller.computer.carriers.map (·.location) ++ (reportedPlaces entities).map some := by
  refine Raising.forM_invariant (fun done (state : Controller C) => state.computer.Sound ∧
    state.computer.carriers.map (·.location) =
      controller.computer.carriers.map (·.location) ++ (reportedPlaces done).map some)
    ?_ ⟨sound, by simp [reportedPlaces]⟩ ran
  -- Each entity adds its carriers behind those of the entities before it.
  rintro done entity later before next - ⟨held, locations⟩ stepped
  obtain ⟨carriers, made, listed, kept⟩ := addEntity_returned stepped
  refine ⟨kept held, ?_⟩
  rw [listed, List.map_append, locations, (built_places made).1]
  simp [reportedPlaces]

/-- Of the descriptions that are kept of a module, the entities are those of the module. -/
theorem entities_descriptions (module : List ModuleItem) :
    ConnectionManager.entities (ConnectionManager.descriptions module) =
      ConnectionManager.entities module := by
  have described : ∀ entities : List PbEntity,
      ConnectionManager.entities (entities.map ConnectionManager.describe) = entities := by
    intro entities
    simp [ConnectionManager.entities, ConnectionManager.describe, List.filterMap_map,
      Function.comp_def]
  have wires : ConnectionManager.entities (module.filter ConnectionManager.isWire) = [] := by
    rw [ConnectionManager.entities, List.filterMap_eq_nil_iff]
    intro item member
    have wire := (List.mem_filter.mp member).2
    cases payload : item.payload with
    | none => rfl
    | some payload' =>
      cases payload' with
      | entitySpecification entity =>
        simp [ConnectionManager.isWire, ModuleItem.kind, payload, ItemPayload.kind] at wire
      | wiringSpecification source target => rfl
      | configuration payload => rfl
      | unhandled kind => rfl
  rw [ConnectionManager.descriptions, ConnectionManager.entities, List.filterMap_append]
  show ConnectionManager.entities _ ++ ConnectionManager.entities _ = _
  rw [described, wires, List.append_nil]

/-- Adding a device returns if it is connected to and its own entities are added. -/
theorem addDevice_returned {attempt : Attempt} {controller after : Controller C}
    (ran : addDevice registry depth attempt controller = .ok () after) :
    ∃ module connected, attempt.discovered = .ok module ∧
      (∀ entity ∈ ConnectionManager.entities module,
        ConnectionManager.reportedCarriers entity ≠ []) ∧
      connected.computer = controller.computer ∧
      (ConnectionManager.entities module).forM (addEntity registry depth) connected =
        .ok () after := by
  rw [addDevice, Raising.get_bind] at ran
  obtain ⟨_, connected, connects, rest⟩ := Raising.bind_eq_ok.mp ran
  rw [Raising.get_bind] at rest
  have outcome := ConnectionManager.addDevice_outcome controller.connectionManager attempt
  rw [connectDevice] at connects
  generalize ConnectionManager.addDevice attempt controller.connectionManager = result
    at outcome connects
  cases outcome with
  | undiscovered failed => cases connects
  | carrierless found listed some => cases connects
  | refused found failed => cases connects
  | unstreamed found failed => cases connects
  | unfit found opened known => cases connects
  | added found opened each collected fits =>
    rename_i module carriers
    obtain ⟨-, rfl⟩ := EStateM.Result.ok.inj connects
    have own : ∀ now : Controller C, now.connectionManager.cacheDescriptions =
        controller.connectionManager.cacheDescriptions ++ ConnectionManager.descriptions module →
        now.newItems controller.connectionManager.cacheDescriptions.length =
          ConnectionManager.descriptions module := by
      intro now kept
      rw [newItems, kept, List.drop_left]
    rw [own _ rfl, entities_descriptions] at rest
    refine ⟨module, _, found, each, ?_, rest⟩
    rfl

/-- The entities that are specified by the devices of these attempts. -/
def specified (attempts : List Attempt) : List PbEntity :=
  attempts.flatMap fun attempt =>
    match attempt.discovered with
    | .ok module => ConnectionManager.entities module
    | .error _ => []

/-- The carriers that are reported by the devices of these attempts. -/
def reported (attempts : List Attempt) : List PbEntity :=
  (specified attempts).flatMap ConnectionManager.reportedCarriers

/-- After devices were added, the carriers are at the places of those reported. -/
theorem addDevices_places {attempts : List Attempt} {known : BlockRegistry C} {after : Controller C}
    (ran : attempts.forM (addDevice registry depth) (new known) = .ok () after) :
    after.computer.Sound ∧
      after.computer.carriers.map (·.location) = (reportedPlaces (specified attempts)).map some ∧
      ∀ entity ∈ specified attempts, ConnectionManager.reportedCarriers entity ≠ [] := by
  refine Raising.forM_invariant (fun done (state : Controller C) => state.computer.Sound ∧
    state.computer.carriers.map (·.location) = (reportedPlaces (specified done)).map some ∧
    ∀ entity ∈ specified done, ConnectionManager.reportedCarriers entity ≠ []) ?_ ?_ ran
  · rintro done attempt later before next - ⟨sound, locations, each⟩ stepped
    obtain ⟨module, connected, found, own, same, added⟩ := addDevice_returned stepped
    obtain ⟨kept, listed⟩ := addEntities_places added (same ▸ sound)
    have more : specified (done ++ [attempt]) =
        specified done ++ ConnectionManager.entities module := by
      simp [specified, found]
    rw [more]
    refine ⟨kept, ?_, fun entity member => ?_⟩
    · rw [listed, same, locations]
      simp [reportedPlaces]
    · exact (List.mem_append.mp member).elim (each entity) (own entity)
  · refine ⟨⟨?_, ?_⟩, rfl, ?_⟩
    · intro carrier member
      cases member
    · intro _ carrier member
      cases member
    · intro entity member
      cases member

/-- Carriers that report their locations are there. -/
theorem places_of_reporting {carriers : List PbEntity}
    (reports : ∀ carrier ∈ carriers, carrier.locationV0 ≠ none) (counter : Nat) :
    places counter carriers = (carriers.filterMap (·.locationV0)).map fun loc =>
      [(loc.1 : Int), (loc.2 : Int)] := by
  -- No carrier asks the counter.
  induction carriers with
  | nil => rfl
  | cons carrier later ih =>
    have rest := ih fun other member => reports other (List.mem_cons_of_mem carrier member)
    cases known : carrier.locationV0 with
    | none => exact absurd known (reports carrier List.mem_cons_self)
    | some loc => simp [places, place, known, rest]

/-- Carriers that report no locations are counted. -/
theorem places_of_silent {carriers : List PbEntity}
    (silent : ∀ carrier ∈ carriers, carrier.locationV0 = none) (counter : Nat) :
    places counter carriers = (List.range' counter carriers.length).map fun (number : Nat) =>
      [0, (number : Int)] := by
  -- Every carrier takes the next number, so that the claim is for every start.
  induction carriers generalizing counter with
  | nil => rfl
  | cons carrier later ih =>
    have rest := ih fun other member => silent other (List.mem_cons_of_mem carrier member)
    simp [places, place, silent carrier List.mem_cons_self, rest, List.range'_succ]

/-- Carriers that all report their locations, different ones, are at different places. -/
theorem reportedPlaces_of_reporting {entities : List PbEntity}
    (reports : ∀ carrier ∈ entities.flatMap ConnectionManager.reportedCarriers,
      carrier.locationV0 ≠ none)
    (different : ((entities.flatMap ConnectionManager.reportedCarriers).filterMap
      (·.locationV0)).Nodup) : (reportedPlaces entities).Nodup := by
  -- The places are the reported locations themselves.
  have listed : reportedPlaces entities =
      ((entities.flatMap ConnectionManager.reportedCarriers).filterMap (·.locationV0)).map
        fun loc => [(loc.1 : Int), (loc.2 : Int)] := by
    rw [reportedPlaces, List.filterMap_flatMap, List.map_flatMap]
    refine List.flatMap_congr fun entity member => places_of_reporting ?_ 0
    exact fun carrier inside => reports carrier (List.mem_flatMap.mpr ⟨entity, member, inside⟩)
  rw [listed]
  refine different.map ?_
  rintro ⟨stack, carrier⟩ ⟨stack', carrier'⟩ same
  simpa using same

/-- Carriers that report no locations are at different places if they come with one entity. -/
theorem reportedPlaces_of_silent {entities : List PbEntity}
    (silent : ∀ carrier ∈ entities.flatMap ConnectionManager.reportedCarriers,
      carrier.locationV0 = none)
    (each : ∀ entity ∈ entities, ConnectionManager.reportedCarriers entity ≠ []) :
    (reportedPlaces entities).Nodup ↔ entities.length ≤ 1 := by
  have counted : ∀ entity ∈ entities, places 0 (ConnectionManager.reportedCarriers entity) =
      (List.range' 0 (ConnectionManager.reportedCarriers entity).length).map fun (number : Nat) =>
        [0, (number : Int)] := fun entity member => places_of_silent (fun carrier inside =>
      silent carrier (List.mem_flatMap.mpr ⟨entity, member, inside⟩)) 0
  -- The counter starts anew with every entity.
  have first : ∀ entity ∈ entities,
      [0, 0] ∈ places 0 (ConnectionManager.reportedCarriers entity) := by
    intro entity member
    rw [counted entity member]
    refine List.mem_map.mpr ⟨0, ?_, rfl⟩
    simpa [List.mem_range', List.length_pos_iff] using each entity member
  rcases entities with _ | ⟨entity, _ | ⟨further, later⟩⟩
  · simp [reportedPlaces]
  · have single : reportedPlaces [entity] =
        places 0 (ConnectionManager.reportedCarriers entity) := by simp [reportedPlaces]
    rw [single, counted entity List.mem_cons_self]
    refine ⟨fun _ => le_rfl, fun _ => (List.nodup_range').map ?_⟩
    intro number other same
    simpa using same
  · -- The first carriers of both entities are at the first place.
    refine ⟨fun distinct => ?_, fun short => ?_⟩
    · rw [reportedPlaces, List.flatMap_cons, List.nodup_append] at distinct
      exact absurd rfl (distinct.2.2 _ (first entity List.mem_cons_self) _
        (List.mem_flatMap.mpr ⟨further, List.mem_cons_self,
          first further (List.mem_cons_of_mem _ List.mem_cons_self)⟩))
    · simp at short

/--
The carriers of a controller keep separate, exactly if they report their locations or all come with
one entity.

Each entity has a deserializer of its own, which counts the carriers without a location from zero.
-/
theorem locations_distinct_iff {attempts : List Attempt} {known : BlockRegistry C}
    {after : Controller C}
    (ran : attempts.forM (addDevice registry depth) (new known) = .ok () after)
    (different : ((reported attempts).filterMap (·.locationV0)).Nodup)
    (uniform : (∀ carrier ∈ reported attempts, carrier.locationV0 ≠ none) ∨
      ∀ carrier ∈ reported attempts, carrier.locationV0 = none) :
    after.computer.Separate ↔
      (∀ carrier ∈ reported attempts, carrier.locationV0 ≠ none) ∨
        (specified attempts).length ≤ 1 := by
  obtain ⟨sound, locations, each⟩ := addDevices_places ran
  rw [sound.separate_iff, locations, List.nodup_map_iff (Option.some_injective _)]
  rcases uniform with reports | silent
  · exact ⟨fun _ => .inl reports, fun _ => reportedPlaces_of_reporting reports different⟩
  · rw [reportedPlaces_of_silent silent each]
    refine ⟨.inr, fun either => either.elim (fun reports => ?_) id⟩
    -- Carriers that do both are none, and then no entity has any.
    rcases empty : specified attempts with _ | ⟨entity, later⟩
    · simp
    · obtain ⟨carrier, inside⟩ := List.exists_mem_of_ne_nil _
        (each entity (empty ▸ List.mem_cons_self))
      have member : carrier ∈ reported attempts :=
        List.mem_flatMap.mpr ⟨entity, empty ▸ List.mem_cons_self, inside⟩
      exact absurd (silent carrier member) (reports carrier member)

/-- A device with one carrier, which has nothing on it. -/
def bareDevice (id : String) (locationV0 : Option (Nat × Nat)) : Attempt where
  discovered := .ok [ConnectionManager.describe
    ⟨id, EntityClass.carrier.value, 1, 1, ⟨1, 0, 0⟩, locationV0, []⟩]
  opening := .opened

/-- Two devices that report different locations keep separate. -/
theorem locations_distinct_reporting :
    ∃ after : Controller EntityClass,
      [bareDevice "/A" (some (0, 0)), bareDevice "/B" (some (0, 1))].forM (addDevice [] 1)
        (new ⟨fun _ => none, fun _ _ => none⟩) = .ok () after ∧ after.computer.Separate := by
  obtain ⟨after, ran⟩ : ∃ after : Controller EntityClass,
      [bareDevice "/A" (some (0, 0)), bareDevice "/B" (some (0, 1))].forM (addDevice [] 1)
        (new ⟨fun _ => none, fun _ _ => none⟩) = .ok () after := ⟨_, rfl⟩
  -- Both carriers say where they are.
  have reports : ∀ carrier ∈ reported
      [bareDevice "/A" (some (0, 0)), bareDevice "/B" (some (0, 1))], carrier.locationV0 ≠ none := by
    decide
  exact ⟨after, ran, (locations_distinct_iff ran (by decide) (.inl reports)).mpr (.inl reports)⟩

/-- Two devices that report no location are both taken to be at the first place. -/
theorem direct_devices_share_location :
    ∃ after : Controller EntityClass,
      [bareDevice "/A" none, bareDevice "/B" none].forM (addDevice [] 1)
        (new ⟨fun _ => none, fun _ _ => none⟩) = .ok () after ∧
      after.computer.carriers.map (·.path) = [["A"], ["B"]] ∧
      after.computer.carriers.map (·.location) = [some [0, 0], some [0, 0]] ∧
      ¬ after.computer.Separate := by
  refine ⟨_, rfl, rfl, rfl, fun separate => ?_⟩
  -- Both are counted from zero.
  exact absurd separate.distinct (by decide)

end Controller

end Discovery

end Pybrid
