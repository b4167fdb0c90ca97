import Pybrid.Redac.Interference

/-! What is registered under which key once the carriers of a computer are registered. -/

namespace Pybrid

namespace CarrierObject

/-- The keys under which the blocks of a carrier are registered. -/
def entries (carrier : CarrierObject) : List (BlockKey × ℕ) :=
  (carrier.tblock.toList.filterMap fun block =>
    block.location.map fun loc => (.carrier loc, block.ref)) ++
  carrier.planes.filterMap fun plane =>
    plane.2.location.map fun stack => (.plane stack plane.1, plane.2.ref)

/-- All blocks of the carrier have locations. -/
structure Located (carrier : CarrierObject) : Prop where
  tblock : ∀ block ∈ carrier.tblock.toList, ∃ loc, block.location = some loc
  planes : ∀ plane ∈ carrier.planes, ∃ stack, plane.2.location = some stack

end CarrierObject

namespace Memory

/-- What a key refers to. -/
def entry (m : Memory) : BlockKey → Option ℕ
  | .carrier loc => m.carriers.table loc
  | .plane stack index => m.planes.table (stack, index)

/-- Let a key refer to a block. -/
def register (m : Memory) : BlockKey × ℕ → Memory
  | (.carrier loc, ref) => { m with carriers := m.carriers.register loc ref }
  | (.plane stack index, ref) => { m with planes := m.planes.register (stack, index) ref }

/-- Let keys refer to blocks, later ones instead of earlier ones. -/
def registerAll (m : Memory) (entries : List (BlockKey × ℕ)) : Memory := entries.foldl register m

/-- A key refers to what it was registered for. -/
theorem register_entry (m : Memory) (key other : BlockKey) (ref : ℕ) :
    (m.register (key, ref)).entry other = if other = key then some ref else m.entry other := by
  cases key <;> cases other <;>
    simp [register, entry, Shared.Store.register, Function.update_apply]

/-- The blocks are not touched. -/
theorem registerAll_objects (entries : List (BlockKey × ℕ)) : ∀ m : Memory,
    (m.registerAll entries).carriers.object = m.carriers.object ∧
      (m.registerAll entries).planes.object = m.planes.object := by
  -- Registering writes the tables and never the blocks.
  induction entries with
  | nil => exact fun m => ⟨rfl, rfl⟩
  | cons first later ih =>
    intro m
    obtain ⟨key, ref⟩ := first
    have rest := ih (m.register (key, ref))
    cases key <;> exact rest

/-- A key refers to a block it was registered for, or to what it referred to before. -/
theorem registerAll_entry (key : BlockKey) (entries : List (BlockKey × ℕ)) : ∀ m : Memory,
    (∃ ref, (key, ref) ∈ entries ∧ (m.registerAll entries).entry key = some ref) ∨
      ((∀ ref, (key, ref) ∉ entries) ∧ (m.registerAll entries).entry key = m.entry key) := by
  -- The induction is on the entries; a later entry for the key replaces an earlier one.
  induction entries with
  | nil => exact fun m => .inr ⟨fun _ => List.not_mem_nil, rfl⟩
  | cons first later ih =>
    intro m
    obtain ⟨other, ref⟩ := first
    rcases ih (m.register (other, ref)) with ⟨found, member, last⟩ | ⟨absent, kept⟩
    · exact .inl ⟨found, List.mem_cons_of_mem _ member, last⟩
    -- No later entry is for this key, so that the first one decides.
    · rw [register_entry] at kept
      by_cases same : key = other
      · subst same
        rw [if_pos rfl] at kept
        exact .inl ⟨ref, List.mem_cons_self, kept⟩
      · rw [if_neg same] at kept
        refine .inr ⟨fun found member => ?_, kept⟩
        rcases List.mem_cons.mp member with here | there
        · exact same (Prod.mk.inj here).1
        · exact absent found there

/-- Memories with the same blocks under the same keys are the same. -/
theorem ext_entry {m m' : Memory} (carriers : m.carriers.object = m'.carriers.object)
    (planes : m.planes.object = m'.planes.object) (entries : ∀ key, m.entry key = m'.entry key) :
    m = m' := by
  obtain ⟨⟨table, object⟩, ⟨planeTable, planeObject⟩⟩ := m
  obtain ⟨⟨table', object'⟩, ⟨planeTable', planeObject'⟩⟩ := m'
  obtain rfl : object = object' := carriers
  obtain rfl : planeObject = planeObject' := planes
  -- A table is a function, so that equal entries make equal tables.
  obtain rfl : table = table' := funext fun loc => entries (.carrier loc)
  obtain rfl : planeTable = planeTable' := funext fun key => entries (.plane key.1 key.2)
  rfl

/-- A loop whose rounds each register a block registers all of them. -/
theorem forM_registers {α : Type} {body : α → MemoryM Unit} {place : α → Option (BlockKey × ℕ)}
    {all : List α} (each : ∀ a ∈ all, ∃ entry, place a = some entry ∧
      ∀ m, body a m = .ok () (m.register entry)) :
    ∀ m, all.forM body m = .ok () (m.registerAll (all.filterMap place)) := by
  -- Each round registers its entry and returns.
  induction all with
  | nil => exact fun m => rfl
  | cons first later ih =>
    intro m
    obtain ⟨entry, placed, registers⟩ := each first List.mem_cons_self
    have rest := ih (fun a member => each a (List.mem_cons_of_mem _ member)) (m.register entry)
    rw [List.filterMap_cons_some placed]
    exact (Raising.bind_of_ok (registers m)).trans rest

/-- A carrier whose blocks have locations is registered. -/
theorem addCarrier_entries {carrier : CarrierObject} (located : carrier.Located) (m : Memory) :
    addCarrier carrier m = .ok () (m.registerAll carrier.entries) := by
  -- The T-block is registered under its location.
  have blocks : ∀ m, carrier.tblock.toList.forM addTBlock m = .ok () (m.registerAll
      (carrier.tblock.toList.filterMap fun block =>
        block.location.map fun loc => (.carrier loc, block.ref))) := by
    refine forM_registers fun block member => ?_
    obtain ⟨loc, found⟩ := located.tblock block member
    exact ⟨_, by rw [found]; rfl, fun m => by simp only [addTBlock, found, requireLoc]; rfl⟩
  -- The blocks of the backplane are registered under their stack and partition.
  have planes : ∀ m, (carrier.planes.forM fun plane => addTBplBlock plane.1 plane.2) m =
      .ok () (m.registerAll (carrier.planes.filterMap fun plane =>
        plane.2.location.map fun stack => (.plane stack plane.1, plane.2.ref))) := by
    refine forM_registers fun plane member => ?_
    obtain ⟨stack, found⟩ := located.planes plane member
    exact ⟨_, by rw [found]; rfl, fun m => by simp only [addTBplBlock, found, requireLoc]; rfl⟩
  rw [addCarrier_eq, Raising.bind_of_ok (blocks m), planes]
  simp only [registerAll, CarrierObject.entries, List.foldl_append]

/-- Carriers whose blocks have locations are registered one after the other. -/
theorem addCarriers_entries {sorted : List (CarrierLoc × CarrierObject)}
    (located : ∀ place ∈ sorted, place.2.Located) :
    ∀ m, (sorted.forM fun place => addCarrier place.2) m =
      .ok () (m.registerAll (sorted.flatMap (·.2.entries))) := by
  -- The entries are appended carrier by carrier.
  induction sorted with
  | nil => exact fun m => rfl
  | cons first later ih =>
    intro m
    have added := addCarrier_entries (located first List.mem_cons_self) m
    have rest := ih (fun place member => located place (List.mem_cons_of_mem _ member))
      (m.registerAll first.2.entries)
    refine ((Raising.bind_of_ok added).trans rest).trans ?_
    simp only [registerAll, List.flatMap_cons, List.foldl_append]

end Memory

namespace Computer

/-- The keys under which the blocks of a computer are registered. -/
def entries (computer : Computer) : List (BlockKey × ℕ) := computer.carriers.flatMap (·.entries)

/-- The carriers are reordered and paired with their locations. -/
theorem sortedCarriers_ok {computer : Computer}
    (located : ∀ carrier ∈ computer.carriers, ∃ loc, carrier.location = some loc) :
    ∃ sorted, computer.sortedCarriers = .ok sorted ∧
      (sorted.map (·.2)).Perm computer.carriers ∧
      ∀ place ∈ sorted, place.2.location = some place.1 := by
  -- The locations are looked up in the order of the carriers, and then the pairs are sorted.
  have looked : ∀ carriers : List CarrierObject,
      (∀ carrier ∈ carriers, ∃ loc, carrier.location = some loc) →
      ∃ found, carriers.mapM (fun carrier =>
        (requireLoc carrier.location).map fun loc => (loc, carrier)) = .ok found ∧
        found.map (·.2) = carriers ∧ ∀ place ∈ found, place.2.location = some place.1 := by
    intro carriers
    induction carriers with
    | nil => exact fun _ => ⟨[], rfl, rfl, fun _ member => nomatch member⟩
    | cons first later ih =>
      intro located
      obtain ⟨loc, present⟩ := located first List.mem_cons_self
      obtain ⟨found, all, same, placed⟩ :=
        ih fun carrier member => located carrier (List.mem_cons_of_mem _ member)
      refine ⟨(loc, first) :: found, ?_, by simp [same], ?_⟩
      · rw [List.mapM_cons, all, present]
        rfl
      · intro place member
        rcases List.mem_cons.mp member with rfl | member
        · exact present
        · exact placed place member
  obtain ⟨found, all, same, placed⟩ := looked computer.carriers located
  have sorts := List.mergeSort_perm found fun first second => first.1.le second.1
  refine ⟨_, by simp only [sortedCarriers, all, bind, Except.bind]; rfl, ?_, ?_⟩
  · rw [← same]
    exact sorts.map _
  · exact fun place member => placed place (sorts.mem_iff.mp member)

/-- The carriers of a computer are registered, in the order of their locations. -/
theorem registerCarriers_ok {computer : Computer}
    (located : ∀ carrier ∈ computer.carriers, ∃ loc, carrier.location = some loc)
    (blocks : ∀ carrier ∈ computer.carriers, carrier.Located) :
    ∃ sorted, computer.sortedCarriers = .ok sorted ∧
      (sorted.map (·.2)).Perm computer.carriers ∧
      (∀ place ∈ sorted, place.2.location = some place.1) ∧
      ∀ m, computer.registerCarriers m =
        .ok sorted (m.registerAll (sorted.flatMap (·.2.entries))) := by
  obtain ⟨sorted, sorts, permuted, placed⟩ := sortedCarriers_ok located
  refine ⟨sorted, sorts, permuted, placed, fun m => ?_⟩
  -- Sorting keeps the carriers, so that their blocks still have locations.
  have each : ∀ place ∈ sorted, place.2.Located := fun place member =>
    blocks place.2 (permuted.mem_iff.mp (List.mem_map_of_mem member))
  simp only [registerCarriers, sorts]
  exact Raising.bind_of_ok (Memory.addCarriers_entries each m)

/-- Every key has one block, so that the order of registration does not matter. -/
def Functional (entries : List (BlockKey × ℕ)) : Prop :=
  ∀ key ref other, (key, ref) ∈ entries → (key, other) ∈ entries → ref = other

/-- What is registered under the keys of the computer, and what is left under the others. -/
theorem registerAll_functional {entries : List (BlockKey × ℕ)} (functional : Functional entries)
    (m : Memory) (key : BlockKey) :
    (∀ ref, (key, ref) ∈ entries → (m.registerAll entries).entry key = some ref) ∧
      ((∀ ref, (key, ref) ∉ entries) → (m.registerAll entries).entry key = m.entry key) := by
  -- Whichever entry came last, it refers to the block that the key has.
  rcases Memory.registerAll_entry key entries m with ⟨found, member, last⟩ | ⟨absent, kept⟩
  · refine ⟨fun ref own => ?_, fun absent => absurd member (absent found)⟩
    rw [last, functional key ref found own member]
  · exact ⟨fun ref own => absurd own (absent ref), fun _ => kept⟩

/-- The order of registration does not matter. -/
theorem registerAll_perm {entries other : List (BlockKey × ℕ)} (functional : Functional entries)
    (same : ∀ entry, entry ∈ entries ↔ entry ∈ other) (m : Memory) :
    m.registerAll entries = m.registerAll other := by
  have functional' : Functional other := fun key ref ref' here there =>
    functional key ref ref' ((same _).mpr here) ((same _).mpr there)
  -- The memories agree in their blocks, and key by key.
  refine Memory.ext_entry ?_ ?_ fun key => ?_
  · rw [(Memory.registerAll_objects entries m).1, (Memory.registerAll_objects other m).1]
  · rw [(Memory.registerAll_objects entries m).2, (Memory.registerAll_objects other m).2]
  · have first := registerAll_functional functional m key
    have second := registerAll_functional functional' m key
    -- A key without an entry keeps what it had before.
    by_cases owned : ∃ ref, (key, ref) ∈ entries
    · obtain ⟨ref, member⟩ := owned
      rw [first.1 ref member, second.1 ref ((same _).mp member)]
    · simp only [not_exists] at owned
      rw [first.2 owned, second.2 fun ref member => owned ref ((same _).mpr member)]

end Computer

namespace Memory

/-- The same blocks, looked up through two sets of tables that stay as they are. -/
structure Mirrors (m n s t : Memory) : Prop where
  carriers : s.carriers.object = t.carriers.object
  planes : s.planes.object = t.planes.object
  left : Parts.SameTables m s
  right : Parts.SameTables n t

/-- A connection does the same where both tables lead to the same block. -/
theorem connect_mirrors {m n s t : Memory} (mirrors : Mirrors m n s t) (setting : Mux × Int)
    (same : m.entry setting.1.key = n.entry setting.1.key) :
    TwoRuns.Alike (Mirrors m n) (connect setting s) (connect setting t) := by
  obtain ⟨mux, source⟩ := setting
  -- Both memories look under the same key and find the same block.
  cases mux with
  | carrier loc sector lane =>
    have key : s.carriers.table loc = t.carriers.table loc := by
      rw [mirrors.left.1, mirrors.right.1]
      exact same
    have found : s.carriers.find loc = t.carriers.find loc := by
      rw [Shared.Store.find, Shared.Store.find, key, mirrors.carriers]
    simp only [connect, found]
    cases (t.carriers.find loc).connect source sector lane with
    | error error => exact ⟨rfl, mirrors⟩
    | ok tBlock =>
      refine ⟨rfl, ?_, mirrors.planes, mirrors.left, mirrors.right⟩
      simp only [Shared.Store.assign, key, mirrors.carriers]
  | backplane stack index sector lane =>
    have key : s.planes.table (stack, index) = t.planes.table (stack, index) := by
      rw [mirrors.left.2, mirrors.right.2]
      exact same
    have found : s.planes.find (stack, index) = t.planes.find (stack, index) := by
      rw [Shared.Store.find, Shared.Store.find, key, mirrors.planes]
    simp only [connect, found]
    cases (t.planes.find (stack, index)).connect source sector lane with
    | error error => exact ⟨rfl, mirrors⟩
    | ok tBlock =>
      refine ⟨rfl, mirrors.carriers, ?_, mirrors.left, mirrors.right⟩
      simp only [Shared.Store.assign, key, mirrors.planes]

/-- Connections do the same where both tables lead to the same blocks. -/
theorem connectAll_mirrors {m n : Memory} {settings : List (Mux × Int)}
    (same : ∀ setting ∈ settings, m.entry setting.1.key = n.entry setting.1.key) :
    ∀ s t, Mirrors m n s t →
      TwoRuns.Alike (Mirrors m n) (connectAll settings s) (connectAll settings t) := by
  -- The settings before have left both memories alike.
  induction settings with
  | nil => exact fun s t mirrors => ⟨rfl, mirrors⟩
  | cons setting settings ih =>
    intro s t mirrors
    have first := connect_mirrors mirrors setting (same setting List.mem_cons_self)
    exact first.bind (fun _ _ => id) fun _ =>
      ih fun setting member => same setting (List.mem_cons_of_mem _ member)

/-- What a key refers to depends on the tables. -/
theorem entry_of_tables {m m' : Memory} (same : Parts.SameTables m m') (key : BlockKey) :
    m'.entry key = m.entry key := by
  -- There is one table for each kind of blocks.
  cases key with
  | carrier loc => exact congrFun same.1 loc
  | plane stack index => exact congrFun same.2 (stack, index)

/-- Blocks that are registered already can be connected before or after a registration. -/
theorem connectAll_registered {entries : List (BlockKey × ℕ)}
    (functional : Computer.Functional entries) {settings : List (Mux × Int)} {m m' : Memory}
    (registered : ∀ setting ∈ settings, ∃ ref,
      (setting.1.key, ref) ∈ entries ∧ m.entry setting.1.key = some ref)
    (connected : connectAll settings m = .ok () m') :
    Parts.SameTables m m' ∧
      connectAll settings (m.registerAll entries) = .ok () (m'.registerAll entries) := by
  have same : ∀ setting ∈ settings,
      m.entry setting.1.key = (m.registerAll entries).entry setting.1.key := by
    intro setting member
    obtain ⟨ref, owned, found⟩ := registered setting member
    rw [found, (Computer.registerAll_functional functional m _).1 ref owned]
  have objects := registerAll_objects entries m
  have alike := connectAll_mirrors same m (m.registerAll entries)
    ⟨objects.1.symm, objects.2.symm, ⟨rfl, rfl⟩, ⟨rfl, rfl⟩⟩
  rw [connected] at alike
  cases ended : connectAll settings (m.registerAll entries) with
  | error error t =>
    rw [ended] at alike
    exact alike.elim
  | ok done t =>
    rw [ended] at alike
    have mirrors := alike.2
    refine ⟨mirrors.left, ?_⟩
    -- The tables are those of the registration, the blocks those that were connected.
    have final : t = m'.registerAll entries := by
      have kept := registerAll_objects entries m'
      refine ext_entry ?_ ?_ fun key => ?_
      · rw [kept.1, mirrors.carriers]
      · rw [kept.2, mirrors.planes]
      · rw [entry_of_tables mirrors.right key]
        have before := Computer.registerAll_functional functional m key
        have after := Computer.registerAll_functional functional m' key
        by_cases owned : ∃ ref, (key, ref) ∈ entries
        · obtain ⟨ref, member⟩ := owned
          rw [before.1 ref member, after.1 ref member]
        · simp only [not_exists] at owned
          rw [before.2 owned, after.2 owned, entry_of_tables mirrors.left key]
    rw [final]

end Memory

end Pybrid
