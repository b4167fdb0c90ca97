import Pybrid.Redac.Interference

/-! Calls on two computers in any order, compared with the calls on one of them alone. -/

namespace Pybrid

/-- One of the two computers. -/
inductive Side where
  | a
  | b
  deriving DecidableEq

/-- A call on a computer. -/
inductive ComputerCall where
  | addCarrier (carrier : CarrierObject)
  | route (srcMath : Int) (srcLane sinkLane : LaneLoc) (sinkMath : Int) (coefficient : Number)
  | serialize (fuel : ℕ)
  | reset

/-- What the caller gets. -/
inductive CallResult where
  | ended (outcome : Except PyError Unit)
  | serialized (items : Option (Except PyError (List Wire.Item)))

namespace Computer

/-- Perform a call. -/
def call : ComputerCall → Computer × Memory → CallResult × (Computer × Memory)
  | .addCarrier carrier, s =>
    let result := addCarrier carrier s
    (.ended (TwoRuns.outcome result), Raising.final result)
  | .route srcMath srcLane sinkLane sinkMath coefficient, s =>
    let result := route srcMath srcLane sinkLane sinkMath coefficient s
    (.ended (TwoRuns.outcome result), Raising.final result)
  | .serialize fuel, (computer, memory) =>
    -- Serializing changes the shared tables and leaves the computer itself alone.
    let result := computer.serializeDependencyInfo fuel memory
    (.serialized result.1, (computer, result.2))
  | .reset, s => (.ended (.ok ()), reset s)

/-- The call keeps to the parts of the first computer, or stays clear of them. -/
def KeepsTo (computer : Computer) (parts : Memory.Parts) (m : Memory) : Side → ComputerCall → Prop
  | .a, .addCarrier carrier => carrier.Within parts
  | .a, .route _ srcLane sinkLane _ _ => Router.refusal srcLane sinkLane = none →
    ∀ setting ∈ Router.path srcLane sinkLane, parts.Uses m setting.1.key
  -- Its own lookups end at its own blocks.
  | .a, .serialize fuel => computer.LooksWithin parts fuel m
  | .b, .addCarrier carrier => carrier.Foreign parts ∧ carrier.Elsewhere parts
  | .b, .route _ srcLane sinkLane _ _ => Router.refusal srcLane sinkLane = none →
    ∀ setting ∈ Router.path srcLane sinkLane, parts.Spares m setting.1.key
  -- The other computer registers its carriers once more, and only elsewhere.
  | .b, .serialize _ => ∀ carrier ∈ computer.carriers, carrier.Elsewhere parts
  | _, .reset => True

/-- The contents of the T-blocks of a computer. -/
def tBlocks (computer : Computer) (m : Memory) : List TBlock :=
  computer.carriers.flatMap fun carrier =>
    carrier.tblock.toList.map fun block => m.carriers.object (some block.ref)

/-- The contents of the backplane T-blocks of a computer. -/
def planeBlocks (computer : Computer) (m : Memory) : List BackplaneTBlock :=
  computer.carriers.flatMap fun carrier =>
    carrier.planes.map fun plane => m.planes.object (some plane.2.ref)

end Computer

/-- Two computers, the blocks they share the tables of, and what their callers got so far. -/
structure World where
  computer : Side → Computer
  memory : Memory
  results : Side → List CallResult

namespace World

/-- Perform a call on one of the computers. -/
def perform (world : World) (step : Side × ComputerCall) : World :=
  let (result, computer, memory) := Computer.call step.2 (world.computer step.1, world.memory)
  { computer := Function.update world.computer step.1 computer
    memory
    results := Function.update world.results step.1 (world.results step.1 ++ [result]) }

/-- Perform calls on both computers. -/
def run (world : World) (calls : List (Side × ComputerCall)) : World := calls.foldl perform world

/-- The calls on the first computer alone. -/
def ownCalls (calls : List (Side × ComputerCall)) : List (Side × ComputerCall) :=
  calls.filter fun step => step.1 = .a

/-- The first computer is as it is without the calls on the other one. -/
structure Unaffected (world alone : World) : Prop where
  /-- Its clusters hold the same configuration. -/
  computer : world.computer .a = alone.computer .a
  /-- Its calls returned the same, the dependency information included. -/
  results : world.results .a = alone.results .a
  /-- Its T-blocks hold the same. -/
  tBlocks : (world.computer .a).tBlocks world.memory = (world.computer .a).tBlocks alone.memory
  planeBlocks : (world.computer .a).planeBlocks world.memory =
    (world.computer .a).planeBlocks alone.memory
  /-- A further route finds the same blocks at the locations of its blocks. -/
  registered : ∀ carrier ∈ (world.computer .a).carriers, ∀ block ∈ carrier.tblock.toList,
    ∀ loc, block.location = some loc →
      world.memory.carriers.table loc = alone.memory.carriers.table loc
  registeredPlanes : ∀ carrier ∈ (world.computer .a).carriers, ∀ plane ∈ carrier.planes,
    ∀ stack, plane.2.location = some stack →
      world.memory.planes.table (stack, plane.1) = alone.memory.planes.table (stack, plane.1)

/-- At first the blocks of the two computers are different objects, each behind its own keys. -/
structure Separate (parts : Memory.Parts) (world : World) : Prop where
  within : (world.computer .a).Within parts
  foreign : (world.computer .b).Foreign parts
  carriers : parts.carriers.Apart world.memory.carriers
  planes : parts.planes.Apart world.memory.planes

/-- The call keeps to the side of its computer. -/
def KeepsTo (parts : Memory.Parts) (world : World) (step : Side × ComputerCall) : Prop :=
  (world.computer step.1).KeepsTo parts world.memory step.1 step.2

/-- The two runs, as far as the first computer can tell. -/
structure Parallel (parts : Memory.Parts) (world alone : World) : Prop where
  beside : Computer.Beside parts (world.computer .a, world.memory) (alone.computer .a, alone.memory)
  foreign : (world.computer .b).Foreign parts
  results : world.results .a = alone.results .a

end World

namespace Computer

variable {parts : Memory.Parts}

/-- A call on the first computer gives the same in both runs. -/
theorem call_alike {s t : Computer × Memory} (beside : Beside parts s t) (call : ComputerCall)
    (keeps : s.1.KeepsTo parts s.2 .a call) :
    (Computer.call call s).1 = (Computer.call call t).1 ∧
      Beside parts (Computer.call call s).2 (Computer.call call t).2 := by
  -- There is one lemma for each call; serializing is a call of the computer on the memory.
  cases call with
  | addCarrier carrier =>
    have alike := addCarrier_alike beside keeps
    exact ⟨congrArg CallResult.ended alike.outcome, alike.final⟩
  | route srcMath srcLane sinkLane sinkMath coefficient =>
    have alike := route_alike beside srcMath sinkMath coefficient keeps
    exact ⟨congrArg CallResult.ended alike.outcome, alike.final⟩
  | serialize fuel =>
    obtain ⟨computer, m⟩ := s
    obtain ⟨_, m'⟩ := t
    obtain rfl : computer = _ := beside.computer
    obtain ⟨same, linked⟩ := serialize_alike beside.within beside.memory keeps
    exact ⟨congrArg CallResult.serialized same, rfl, beside.within, linked⟩
  | reset => exact ⟨rfl, reset_beside beside⟩

/-- A call on the other computer goes unnoticed. -/
theorem call_aside {m' : Memory} {s : Computer × Memory} (aside : Aside parts m' s)
    (call : ComputerCall) (keeps : s.1.KeepsTo parts s.2 .b call) :
    Aside parts m' (Computer.call call s).2 := by
  -- Whatever the other computer calls, this one's part of the memory stays linked.
  cases call with
  | addCarrier carrier => exact addCarrier_aside aside keeps.1 keeps.2
  | route srcMath srcLane sinkLane sinkMath coefficient =>
    exact route_aside aside srcMath sinkMath coefficient keeps
  | serialize fuel =>
    exact ⟨aside.foreign, serialize_elsewhere aside.foreign keeps aside.memory fuel⟩
  | reset => exact reset_aside aside

end Computer

namespace World

variable {parts : Memory.Parts} {world alone : World}

/-- A call on the first computer is taken in both runs. -/
theorem Parallel.own (parallel : Parallel parts world alone) (call : ComputerCall)
    (keeps : world.KeepsTo parts (.a, call)) :
    Parallel parts (world.perform (.a, call)) (alone.perform (.a, call)) := by
  obtain ⟨same, beside⟩ := Computer.call_alike parallel.beside call keeps
  -- Both worlds make the call, so that the results stay the same.
  refine ⟨?_, ?_, ?_⟩
  · simpa only [perform, Function.update_self] using beside
  · simpa [perform] using parallel.foreign
  · simp only [perform, Function.update_self, parallel.results, same]

/-- A call on the other computer leaves the first one as it is without that call. -/
theorem Parallel.other (parallel : Parallel parts world alone) (call : ComputerCall)
    (keeps : world.KeepsTo parts (.b, call)) : Parallel parts (world.perform (.b, call)) alone := by
  -- Only the one world makes this call, and it writes aside.
  have aside := Computer.call_aside
    (s := (world.computer .b, world.memory)) ⟨parallel.foreign, parallel.beside.memory⟩ call keeps
  refine ⟨?_, ?_, ?_⟩
  · simpa [perform] using ⟨parallel.beside.computer, parallel.beside.within, aside.memory⟩
  · simpa only [perform, Function.update_self] using aside.foreign
  · simpa [perform] using parallel.results

/-- What the first computer can tell is that it is unaffected. -/
theorem Parallel.unaffected (parallel : Parallel parts world alone) :
    world.Unaffected alone := by
  obtain ⟨⟨computer, within, linked⟩, foreign, results⟩ := parallel
  -- What is owned is linked, object by object and key by key.
  refine ⟨computer, results, ?_, ?_, ?_, ?_⟩
  · refine List.flatMap_congr fun carrier member => List.map_congr_left fun block inside => ?_
    exact linked.carriersAgree.object _ (.inl ((within carrier member).tblock block inside).1)
  · refine List.flatMap_congr fun carrier member => List.map_congr_left fun plane inside => ?_
    exact linked.planesAgree.object _ (.inl ((within carrier member).planes plane inside).1)
  · intro carrier member block inside loc located
    exact linked.carriersAgree.table loc (((within carrier member).tblock block inside).2 loc located)
  · intro carrier member plane inside stack located
    exact linked.planesAgree.table _ (((within carrier member).planes plane inside).2 stack located)

/--
Two computers do not interfere, as long as their calls keep to separate parts of the tables.

The first computer ends as it does without the calls on the other one, and what it was serialized
to on the way is the same.
-/
theorem run_unaffected (parts : Memory.Parts) (world : World) (separate : world.Separate parts)
    (calls : List (Side × ComputerCall))
    (keeps : TwoRuns.Throughout perform (KeepsTo parts) world calls) :
    (world.run calls).Unaffected (world.run (ownCalls calls)) := by
  have start : Parallel parts world world :=
    ⟨⟨rfl, separate.within, separate.carriers, separate.planes, .refl _ _, .refl _ _⟩,
      separate.foreign, rfl⟩
  have ended : Parallel parts (world.run calls) (world.run (ownCalls calls)) := by
    -- The run with all calls is compared with the run of its own calls, call by call.
    refine TwoRuns.unnoticed ?_ ?_ world world start keeps
    · rintro s t ⟨side, call⟩ parallel keeps own
      obtain rfl : side = .a := by simpa using own
      exact parallel.own call keeps
    · rintro s t ⟨side, call⟩ parallel keeps other
      obtain rfl : side = .b := by cases side <;> simp_all
      exact parallel.other call keeps
  exact ended.unaffected

/-- A carrier with two clusters and a T-block. -/
def twoClusters (carrierId : Int) (ref : ℕ) : CarrierObject where
  path := []
  location := some ⟨0, carrierId⟩
  clusters := [⟨some ⟨0, carrierId, 0⟩, .new, .new, .new⟩, ⟨some ⟨0, carrierId, 1⟩, .new, .new, .new⟩]
  tblock := some ⟨ref, some ⟨0, carrierId⟩⟩
  st0block := none
  st1block := none
  st2block := none

/-- Two computers without carriers. -/
def bare : World := ⟨fun _ => ⟨[]⟩, .blank, fun _ => []⟩

/-- The first computer has the carrier with number 0 and its T-block, and the stand-ins. -/
def firstCarrier : Memory.Parts where
  carriers := ⟨(· = ⟨0, 0⟩), True, (· = 0), (· = 1)⟩
  planes := ⟨fun _ => True, True, fun _ => False, fun _ => True⟩

/-- Each computer gets a carrier; the other one is serialized, then the first one routes. -/
def neighbours : List (Side × ComputerCall) :=
  [(.a, .addCarrier (twoClusters 0 0)), (.b, .addCarrier (twoClusters 1 1)), (.b, .serialize 1),
    (.a, .route 0 ⟨0, 0, 0, 8⟩ ⟨0, 0, 1, 8⟩ 0 (.float .one)), (.b, .reset)]

/-- A carrier at another place stays clear of the first one's keys. -/
theorem twoClusters_elsewhere : (twoClusters 1 1).Elsewhere firstCarrier where
  tblock := by
    intro block member loc located inside
    obtain rfl : block = ⟨1, some ⟨0, 1⟩⟩ := by simpa [twoClusters] using member
    obtain rfl := Option.some.inj located
    -- Its only block has another location.
    exact absurd (CarrierLoc.mk.inj inside).2 (by decide)
  planes := by simp [twoClusters, CarrierObject.planes]

theorem run_unaffected_neighbours :
    (bare.run neighbours).Unaffected (bare.run (ownCalls neighbours)) := by
  refine run_unaffected firstCarrier bare ?_ neighbours ⟨?_, ⟨?_, ?_⟩, ?_, ?_, trivial, trivial⟩
  -- At first there are no carriers, and no block is shared.
  · refine ⟨by simp [Computer.Within, bare], by simp [Computer.Foreign, bare], ⟨?_, ?_⟩, ⟨?_, ?_⟩⟩
    · exact fun key ref _ found => absurd found (Option.some_ne_none ref).symm
    · rintro ref rfl (owned | ⟨_, _, found⟩)
      · exact Nat.one_ne_zero owned
      · exact (Option.some_ne_none _).symm found
    · exact fun key ref _ found => absurd found (Option.some_ne_none ref).symm
    · rintro ref _ (owned | ⟨_, _, found⟩)
      · exact owned
      · exact (Option.some_ne_none _).symm found
  -- The first carrier has the one block of its location.
  · refine ⟨?_, by simp [twoClusters, CarrierObject.planes]⟩
    intro block member
    obtain rfl : block = ⟨0, some ⟨0, 0⟩⟩ := by simpa [twoClusters] using member
    exact ⟨rfl, fun loc located => (Option.some.inj located).symm⟩
  · refine ⟨?_, by simp [twoClusters, CarrierObject.planes]⟩
    intro block member
    obtain rfl : block = ⟨1, some ⟨0, 1⟩⟩ := by simpa [twoClusters] using member
    rfl
  · exact twoClusters_elsewhere
  · intro carrier member
    obtain rfl : carrier = twoClusters 1 1 := List.mem_singleton.mp member
    exact twoClusters_elsewhere
  -- The route stays on the first carrier.
  · intro _ setting member
    obtain rfl : setting = (.carrier ⟨0, 0⟩ 2 0, 1) := List.mem_singleton.mp member
    exact ⟨rfl, fun _ => trivial⟩

/-- A computer whose carrier was added, and a copy of it whose T-block is another object. -/
def copied : World :=
  ⟨fun side => match side with
    | .a => ⟨[]⟩
    | .b => ⟨[twoClusters 0 1]⟩, .blank, fun _ => []⟩

/-- The copy is serialized before the first computer routes. -/
def copySerialized : List (Side × ComputerCall) :=
  [(.a, .addCarrier (twoClusters 0 0)), (.b, .serialize 1),
    (.a, .route 0 ⟨0, 0, 0, 8⟩ ⟨0, 0, 1, 8⟩ 0 (.float .one))]

/-- A carrier alone is registered as it is added. -/
theorem serialize_single (carrier : CarrierObject) {loc : CarrierLoc}
    (located : carrier.location = some loc) (fuel : ℕ) (m : Memory) :
    (Computer.serializeDependencyInfo ⟨[carrier]⟩ fuel m).2 =
      Raising.final (Memory.addCarrier carrier m) := by
  have sorted : Computer.sortedCarriers ⟨[carrier]⟩ = .ok [(loc, carrier)] := by
    simp [Computer.sortedCarriers, located, requireLoc, Except.map, bind, Except.bind, pure,
      Except.pure]
  -- Registering the one carrier is all that is done to the memory.
  cases ended : Memory.addCarrier carrier m with
  | ok done n =>
    have registered : Computer.registerCarriers ⟨[carrier]⟩ m = .ok [(loc, carrier)] n := by
      simp only [Computer.registerCarriers, sorted]
      exact Raising.bind_of_ok (Raising.bind_of_ok ended)
    simp only [Computer.serializeDependencyInfo, registered, Raising.final]
  | error error n =>
    have refused : Computer.registerCarriers ⟨[carrier]⟩ m = .error error n := by
      simp only [Computer.registerCarriers, sorted]
      exact Raising.bind_of_error (Raising.bind_of_error ended)
    simp only [Computer.serializeDependencyInfo, refused, Raising.final]

/-- Serializing the copy takes the route away from the first computer's T-block. -/
theorem copy_takes_route :
    ¬ (copied.run copySerialized).Unaffected (copied.run (ownCalls copySerialized)) := by
  intro unaffected
  -- The copy of the computer has a T-block of its own, which is registered under the same location.
  have serialized : (copied.run copySerialized).memory =
      (Computer.call (.route 0 ⟨0, 0, 0, 8⟩ ⟨0, 0, 1, 8⟩ 0 (.float .one)) (⟨[twoClusters 0 0]⟩,
        Raising.final (Memory.addCarrier (twoClusters 0 1)
          (copied.perform (.a, .addCarrier (twoClusters 0 0))).memory))).2.2 := by
    rw [← serialize_single (twoClusters 0 1) rfl 1]
    rfl
  -- The route then sets the multiplexer of that block instead.
  have blocks := congrArg (fun blocks => blocks.map fun block => block.source 2 0) unaffected.tBlocks
  rw [serialized] at blocks
  have same : [Except.ok (some 2)] = [(Except.ok (some 1) : Except PyError (Option Int))] := blocks
  simp at same

end World

end Pybrid
