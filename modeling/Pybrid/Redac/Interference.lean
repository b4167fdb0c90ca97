import Pybrid.Library.Fuel
import Pybrid.Library.TwoRuns
import Pybrid.Redac.ComputerObjects

/-! Two computers that share the routing tables, and when one does not notice the other. -/

namespace Pybrid

/-- Under which key a block is looked up. -/
inductive BlockKey where
  | carrier (loc : CarrierLoc)
  | plane (stack index : Int)
  deriving DecidableEq

/-- The block of a multiplexer. -/
def Mux.key : Mux → BlockKey
  | .carrier loc _ _ => .carrier loc
  | .backplane stack index _ _ => .plane stack index

/-- Both tables lead to equal blocks. -/
def Routing.SameAt (r r' : Routing) : BlockKey → Prop
  | .carrier loc => r.findCarrierTBlock loc = r'.findCarrierTBlock loc
  | .plane stack index => r.findBplTBlock stack index = r'.findBplTBlock stack index

namespace Tracer

open Routing

/-- The blocks that are looked up while the backplane is followed. -/
def backplaneLookups (r : Routing) (tblockLane : Int) : ℕ → Int → Int → List BlockKey
  | 0, _, _ => []
  | fuel + 1, currentStack, sector =>
    .plane currentStack (tblockLane / 8) ::
      match r.bplSource currentStack (tblockLane / 8) sector (tblockLane % 8) with
      | .error _ => []
      | .ok none => []
      | .ok (some prevCarrierId) =>
        -- Slots 7 and 8 lead to the neighbouring stacks, and nothing is looked up behind a carrier.
        if prevCarrierId = 8 then backplaneLookups r tblockLane fuel (currentStack - 1) 7
        else if prevCarrierId = 7 then backplaneLookups r tblockLane fuel (currentStack + 1) 8
        else []

/-- The blocks that are looked up while a lane is followed behind its T-block. -/
def lookupsFrom (r : Routing) : ℕ → List LaneLoc → LaneLoc → List BlockKey
  | 0, _, _ => []
  | fuel + 1, visited, loc =>
    -- The first eight lanes bypass the T-blocks, so that no block is looked up for them.
    if loc.laneId < 8 then []
    else if loc ∈ visited then []
    else
      .carrier loc.carrier ::
        match r.carrierSource loc.carrier loc.clusterId (loc.laneId - 8) with
        | .error _ => []
        | .ok none => []
        | .ok (some source) =>
          -- A source among the clusters of the carrier ends the search, and only the backplane goes
          -- on.
          if source ≠ 0 then []
          else
            backplaneLookups r (loc.laneId - 8) (fuel + 1) loc.stackId loc.carrierId ++
              match traceBackplane r (loc.laneId - 8) (fuel + 1) loc.stackId loc.carrierId with
              | some (.ok (some (currentStack, prevCarrierId))) =>
                lookupsFrom r fuel (loc :: visited) ⟨currentStack, prevCarrierId, 0, loc.laneId⟩
              | _ => []

/-- The blocks that are looked up to find the coefficient lane that feeds a lane. -/
def lookups (r : Routing) (fuel : ℕ) (loc : LaneLoc) : List BlockKey :=
  if loc.laneId < 8 then []
  else lookupsFrom r fuel [] ⟨loc.stackId, loc.carrierId, loc.clusterId + 1, loc.laneId⟩

/-- Following the backplane depends on the blocks that are looked up. -/
theorem traceBackplane_congr {r r' : Routing} {tblockLane : Int} : ∀ (fuel : ℕ) (stack sector : Int),
    (∀ key ∈ backplaneLookups r tblockLane fuel stack sector, r.SameAt r' key) →
    traceBackplane r tblockLane fuel stack sector = traceBackplane r' tblockLane fuel stack sector := by
  intro fuel
  induction fuel with
  | zero => exact fun _ _ _ => rfl
  | succ fuel ih =>
    intro stack sector same
    simp only [backplaneLookups, List.mem_cons, forall_eq_or_imp] at same
    obtain ⟨here, onward⟩ := same
    have source : r'.bplSource stack (tblockLane / 8) sector (tblockLane % 8) =
        r.bplSource stack (tblockLane / 8) sector (tblockLane % 8) :=
      congrArg (fun block => block.source sector (tblockLane % 8)) here.symm
    unfold traceBackplane
    rw [source]
    cases found : r.bplSource stack (tblockLane / 8) sector (tblockLane % 8) with
    | error error => rfl
    | ok source =>
      cases source with
      | none => rfl
      | some prevCarrierId =>
        simp only [found] at onward
        -- The two further stacks are those the lookups go on with.
        by_cases below : prevCarrierId = 8
        · simp only [below, if_true] at onward ⊢
          exact ih _ _ onward
        · by_cases above : prevCarrierId = 7
          · simp only [above, if_true] at onward ⊢
            exact ih _ _ onward
          · simp only [below, above, if_false]

/-- Following a lane depends on the blocks that are looked up. -/
theorem traceFrom_congr {r r' : Routing} : ∀ (fuel : ℕ) (visited : List LaneLoc) (loc : LaneLoc),
    (∀ key ∈ lookupsFrom r fuel visited loc, r.SameAt r' key) →
    traceFrom r fuel visited loc = traceFrom r' fuel visited loc := by
  intro fuel
  -- The induction is on the fuel; each call looks at one T-block and goes on behind the backplane.
  induction fuel with
  | zero => exact fun _ _ _ => rfl
  | succ fuel ih =>
    intro visited loc same
    unfold lookupsFrom at same
    unfold traceFrom
    by_cases bypass : loc.laneId < 8
    · simp only [bypass, if_true]
    by_cases seen : loc ∈ visited
    · simp only [bypass, seen, if_true, if_false]
    simp only [bypass, seen, if_false, List.mem_cons, forall_eq_or_imp] at same ⊢
    obtain ⟨here, onward⟩ := same
    -- The T-block of the carrier is among those on which the registries agree.
    have source : r'.carrierSource loc.carrier loc.clusterId (loc.laneId - 8) =
        r.carrierSource loc.carrier loc.clusterId (loc.laneId - 8) :=
      congrArg (fun block => block.source loc.clusterId (loc.laneId - 8)) here.symm
    rw [source]
    cases found : r.carrierSource loc.carrier loc.clusterId (loc.laneId - 8) with
    | error error => rfl
    | ok source =>
      cases source with
      | none => rfl
      | some sector =>
        simp only [found] at onward
        by_cases backplane : sector ≠ 0
        · simp only [if_pos backplane]
        · obtain rfl := not_not.mp backplane
          simp only [ne_eq, not_true_eq_false, if_false, List.mem_append] at onward ⊢
          -- So are the blocks of the backplanes, and the search goes on at the same place.
          rw [← traceBackplane_congr (fuel + 1) loc.stackId loc.carrierId
            fun key member => onward key (.inl member)]
          cases followed : traceBackplane r (loc.laneId - 8) (fuel + 1) loc.stackId loc.carrierId with
          | none => rfl
          | some ended =>
            cases ended with
            | error error => rfl
            | ok ended =>
              cases ended with
              | none => rfl
              | some place =>
                have rest := ih (loc :: visited) ⟨place.1, place.2, 0, loc.laneId⟩
                  fun key member => onward key (.inr (by simpa only [followed] using member))
                simp only [rest]

/-- The source that is found depends on the blocks that are looked up. -/
theorem findCoef_congr {r r' : Routing} {fuel : ℕ} {loc : LaneLoc}
    (same : ∀ key ∈ lookups r fuel loc, r.SameAt r' key) :
    findCoef r fuel loc = findCoef r' fuel loc := by
  unfold findCoef
  unfold lookups at same
  -- The bypass looks at no block, and everything else is found by the search.
  by_cases bypass : loc.laneId < 8
  · simp only [bypass, if_true]
  · simp only [bypass, if_false] at same ⊢
    exact traceFrom_congr fuel [] _ same

end Tracer

namespace Memory

/-- What one computer works with, of the carriers' blocks and of the backplanes'. -/
structure Parts where
  carriers : Shared.Part CarrierLoc
  planes : Shared.Part (Int × Int)

namespace Parts

/-- Looking a block up stays within the parts. -/
def Uses (parts : Parts) (m : Memory) : BlockKey → Prop
  | .carrier loc => parts.carriers.Uses m.carriers loc
  | .plane stack index => parts.planes.Uses m.planes (stack, index)

/-- Looking a block up stays clear of the parts. -/
def Spares (parts : Parts) (m : Memory) : BlockKey → Prop
  | .carrier loc => parts.carriers.Spares m.carriers loc
  | .plane stack index => parts.planes.Spares m.planes (stack, index)

/-- The others are apart from the computer, which finds the same in both memories. -/
structure Linked (parts : Parts) (m m' : Memory) : Prop where
  carriersApart : parts.carriers.Apart m.carriers
  planesApart : parts.planes.Apart m.planes
  carriersAgree : parts.carriers.Agree m.carriers m'.carriers
  planesAgree : parts.planes.Agree m.planes m'.planes

/-- Nothing was registered in between. -/
def SameTables (m m' : Memory) : Prop :=
  m'.carriers.table = m.carriers.table ∧ m'.planes.table = m.planes.table

/-- Whether a lookup stays within the parts depends on the tables. -/
theorem Uses.of_tables {parts : Parts} {m m' : Memory} {key : BlockKey} (uses : parts.Uses m key)
    (same : SameTables m m') : parts.Uses m' key := by
  -- There is one table for each kind of blocks.
  cases key with
  | carrier loc => exact ⟨uses.1, fun missing => uses.2 (same.1 ▸ missing)⟩
  | plane stack index => exact ⟨uses.1, fun missing => uses.2 (same.2 ▸ missing)⟩

/-- Whether a lookup stays clear of the parts depends on the tables. -/
theorem Spares.of_tables {parts : Parts} {m m' : Memory} {key : BlockKey}
    (spares : parts.Spares m key) (same : SameTables m m') : parts.Spares m' key := by
  -- There is one table for each kind of blocks.
  cases key with
  | carrier loc => exact ⟨spares.1, fun missing => spares.2 (same.1 ▸ missing)⟩
  | plane stack index => exact ⟨spares.1, fun missing => spares.2 (same.2 ▸ missing)⟩

/-- The computer sees equal blocks where it looks. -/
theorem Linked.sameAt {parts : Parts} {m m' : Memory} (linked : parts.Linked m m') {key : BlockKey}
    (uses : parts.Uses m key) : m.view.SameAt m'.view key := by
  -- There is one table for each kind of blocks.
  cases key with
  | carrier loc => simpa only [Routing.SameAt, view_findCarrierTBlock] using linked.carriersAgree.find uses
  | plane stack index => simpa only [Routing.SameAt, view_findBplTBlock] using linked.planesAgree.find uses

/-- A connection that the computer makes ends alike in both memories. -/
theorem Linked.connect {parts : Parts} {m m' : Memory} (linked : parts.Linked m m')
    (setting : Mux × Int) (uses : parts.Uses m setting.1.key) :
    TwoRuns.Alike (fun s t => parts.Linked s t ∧ SameTables m s)
      (Memory.connect setting m) (Memory.connect setting m') := by
  obtain ⟨mux, source⟩ := setting
  cases mux with
  | carrier loc sector lane =>
    simp only [Memory.connect, ← linked.carriersAgree.find uses]
    cases (m.carriers.find loc).connect source sector lane with
    | error error => exact ⟨rfl, linked, rfl, rfl⟩
    | ok tBlock =>
      -- Both change the object that the key refers to, which is the same one.
      simp only [← linked.carriersAgree.table loc uses.1]
      exact ⟨rfl, ⟨linked.carriersApart.assign _ _, linked.planesApart,
        linked.carriersAgree.assign _ _, linked.planesAgree⟩, rfl, rfl⟩
  | backplane stack index sector lane =>
    simp only [Memory.connect, ← linked.planesAgree.find uses]
    cases (m.planes.find (stack, index)).connect source sector lane with
    | error error => exact ⟨rfl, linked, rfl, rfl⟩
    | ok tBlock =>
      simp only [← linked.planesAgree.table (stack, index) uses.1]
      exact ⟨rfl, ⟨linked.carriersApart, linked.planesApart.assign _ _, linked.carriersAgree,
        linked.planesAgree.assign _ _⟩, rfl, rfl⟩

/-- The computer does not notice a connection that stays clear of its parts. -/
theorem Linked.connect_spared {parts : Parts} {m m' : Memory} (linked : parts.Linked m m')
    (setting : Mux × Int) (spares : parts.Spares m setting.1.key) :
    parts.Linked (Raising.final (Memory.connect setting m)) m' := by
  obtain ⟨mux, source⟩ := setting
  -- The multiplexer belongs to a block of the one computer, and the other one does not see it.
  cases mux with
  | carrier loc sector lane =>
    simp only [Memory.connect]
    cases (m.carriers.find loc).connect source sector lane with
    | error error => exact linked
    | ok tBlock =>
      exact ⟨linked.carriersApart.assign _ _, linked.planesApart,
        linked.carriersAgree.assign_spared linked.carriersApart spares _, linked.planesAgree⟩
  | backplane stack index sector lane =>
    simp only [Memory.connect]
    cases (m.planes.find (stack, index)).connect source sector lane with
    | error error => exact linked
    | ok tBlock =>
      exact ⟨linked.carriersApart, linked.planesApart.assign _ _, linked.carriersAgree,
        linked.planesAgree.assign_spared linked.planesApart spares _⟩

/-- Connections that the computer makes end alike in both memories. -/
theorem Linked.connectAll {parts : Parts} : ∀ (settings : List (Mux × Int)) (m m' : Memory),
    parts.Linked m m' → (∀ setting ∈ settings, parts.Uses m setting.1.key) →
    TwoRuns.Alike parts.Linked (Memory.connectAll settings m) (Memory.connectAll settings m') := by
  intro settings
  induction settings with
  | nil => exact fun m m' linked _ => ⟨rfl, linked⟩
  | cons setting settings ih =>
    intro m m' linked uses
    have first := linked.connect setting (uses setting List.mem_cons_self)
    have later : ∀ s, SameTables m s → ∀ setting ∈ settings, parts.Uses s setting.1.key :=
      fun s same setting member => (uses setting (List.mem_cons_of_mem _ member)).of_tables same
    -- What comes later looks its keys up in the same tables.
    exact first.bind (fun _ _ => And.left) fun _ s t states => ih s t states.1 (later s states.2)

/-- The computer does not notice connections that stay clear of its parts. -/
theorem Linked.connectAll_spared {parts : Parts} : ∀ (settings : List (Mux × Int)) (m m' : Memory),
    parts.Linked m m' → (∀ setting ∈ settings, parts.Spares m setting.1.key) →
    parts.Linked (Raising.final (Memory.connectAll settings m)) m' := by
  intro settings
  -- The induction is on the settings; one that raises leaves out the rest.
  induction settings with
  | nil => exact fun m m' linked _ => linked
  | cons setting settings ih =>
    intro m m' linked spares
    have first := linked.connect_spared setting (spares setting List.mem_cons_self)
    -- Connecting registers nothing, so that the rest is spared as well.
    have same := connect_tables setting m
    unfold Memory.connectAll
    cases ended : Memory.connect setting m with
    | ok done s =>
      rw [ended] at first same
      rw [Raising.bind_of_ok ended]
      exact ih s m' first fun setting member =>
        (spares setting (List.mem_cons_of_mem _ member)).of_tables same
    | error error s =>
      rw [ended] at first
      rw [Raising.bind_of_error ended]
      exact first

/-- A route of the computer ends alike in both memories. -/
theorem Linked.route {parts : Parts} {m m' : Memory} (linked : parts.Linked m m')
    {src dst : LaneLoc} (uses : Router.refusal src dst = none →
      ∀ setting ∈ Router.path src dst, parts.Uses m setting.1.key) :
    TwoRuns.Alike parts.Linked (Memory.route src dst m) (Memory.route src dst m') := by
  unfold Memory.route
  -- A route that is refused touches nothing.
  cases refused : Router.refusal src dst with
  | some error => exact ⟨rfl, linked⟩
  | none => exact Linked.connectAll _ _ _ linked (uses refused)

/-- The computer does not notice a route that stays clear of its parts. -/
theorem Linked.route_spared {parts : Parts} {m m' : Memory} (linked : parts.Linked m m')
    {src dst : LaneLoc} (spares : Router.refusal src dst = none →
      ∀ setting ∈ Router.path src dst, parts.Spares m setting.1.key) :
    parts.Linked (Raising.final (Memory.route src dst m)) m' := by
  unfold Memory.route
  -- Only a route that is not refused sets multiplexers.
  cases refused : Router.refusal src dst with
  | some error => exact linked
  | none => exact Linked.connectAll_spared _ _ _ linked (spares refused)

end Parts

end Memory

namespace CarrierObject

/-- The backplane T-blocks of a carrier, with their partitions. -/
def planes (carrier : CarrierObject) : List (Int × BlockObject Int) :=
  carrier.st0block.toList.map (0, ·) ++ carrier.st1block.toList.map (1, ·) ++
    carrier.st2block.toList.map (2, ·)

/-- The blocks of the carrier belong to the computer, as do the keys they are registered under. -/
structure Within (carrier : CarrierObject) (parts : Memory.Parts) : Prop where
  tblock : ∀ block ∈ carrier.tblock.toList,
    parts.carriers.owned block.ref ∧ ∀ loc, block.location = some loc → parts.carriers.keys loc
  planes : ∀ plane ∈ carrier.planes, parts.planes.owned plane.2.ref ∧
    ∀ stack, plane.2.location = some stack → parts.planes.keys (stack, plane.1)

/-- The blocks of the carrier are those of others. -/
structure Foreign (carrier : CarrierObject) (parts : Memory.Parts) : Prop where
  tblock : ∀ block ∈ carrier.tblock.toList, parts.carriers.others block.ref
  planes : ∀ plane ∈ carrier.planes, parts.planes.others plane.2.ref

/-- No block of the carrier is registered under a key of the computer. -/
structure Elsewhere (carrier : CarrierObject) (parts : Memory.Parts) : Prop where
  tblock : ∀ block ∈ carrier.tblock.toList,
    ∀ loc, block.location = some loc → ¬ parts.carriers.keys loc
  planes : ∀ plane ∈ carrier.planes,
    ∀ stack, plane.2.location = some stack → ¬ parts.planes.keys (stack, plane.1)

end CarrierObject

namespace Memory

/-- Registering the backplane T-blocks of a carrier, partition by partition. -/
theorem addCarrier_eq (carrier : CarrierObject) :
    addCarrier carrier = (do
      carrier.tblock.toList.forM addTBlock
      carrier.planes.forM fun plane => addTBplBlock plane.1 plane.2) := by
  simp [addCarrier, CarrierObject.planes]

namespace Parts

variable {parts : Parts} {m m' : Memory}

/-- The computer registers a T-block of its own alike in both memories. -/
theorem Linked.addTBlock (linked : parts.Linked m m') {block : BlockObject CarrierLoc}
    (owned : parts.carriers.owned block.ref)
    (inside : ∀ loc, block.location = some loc → parts.carriers.keys loc) :
    TwoRuns.Alike parts.Linked (Memory.addTBlock block m) (Memory.addTBlock block m') := by
  unfold Memory.addTBlock
  -- A block without a location raises in both runs before anything is registered.
  cases found : block.location with
  | none => exact ⟨rfl, linked⟩
  | some loc =>
    exact ⟨rfl, linked.carriersApart.register (inside loc found) owned, linked.planesApart,
      linked.carriersAgree.register loc owned, linked.planesAgree⟩

/-- The computer registers a backplane T-block of its own alike in both memories. -/
theorem Linked.addTBplBlock (linked : parts.Linked m m') {index : Int} {block : BlockObject Int}
    (owned : parts.planes.owned block.ref)
    (inside : ∀ stack, block.location = some stack → parts.planes.keys (stack, index)) :
    TwoRuns.Alike parts.Linked (Memory.addTBplBlock index block m)
      (Memory.addTBplBlock index block m') := by
  unfold Memory.addTBplBlock
  -- Here the key is the stack with the partition, but a missing location raises as well.
  cases found : block.location with
  | none => exact ⟨rfl, linked⟩
  | some stack =>
    exact ⟨rfl, linked.carriersApart, linked.planesApart.register (inside stack found) owned,
      linked.carriersAgree, linked.planesAgree.register (stack, index) owned⟩

/-- The computer does not notice a T-block registered elsewhere. -/
theorem Linked.addTBlock_elsewhere (linked : parts.Linked m m') {block : BlockObject CarrierLoc}
    (theirs : parts.carriers.others block.ref)
    (outside : ∀ loc, block.location = some loc → ¬ parts.carriers.keys loc) :
    parts.Linked (Raising.final (Memory.addTBlock block m)) m' := by
  unfold Memory.addTBlock
  -- The key is none of this computer's, so that its entries stay.
  cases found : block.location with
  | none => exact linked
  | some loc =>
    exact ⟨linked.carriersApart.register_outside (outside loc found) theirs, linked.planesApart,
      linked.carriersAgree.register_outside (outside loc found) block.ref, linked.planesAgree⟩

/-- The computer does not notice a backplane T-block registered elsewhere. -/
theorem Linked.addTBplBlock_elsewhere (linked : parts.Linked m m') {index : Int}
    {block : BlockObject Int} (theirs : parts.planes.others block.ref)
    (outside : ∀ stack, block.location = some stack → ¬ parts.planes.keys (stack, index)) :
    parts.Linked (Raising.final (Memory.addTBplBlock index block m)) m' := by
  unfold Memory.addTBplBlock
  -- The same, for a stack and partition that this computer does not use.
  cases found : block.location with
  | none => exact linked
  | some stack =>
    exact ⟨linked.carriersApart, linked.planesApart.register_outside (outside stack found) theirs,
      linked.carriersAgree, linked.planesAgree.register_outside (outside stack found) block.ref⟩

/-- The computer registers a carrier of its own alike in both memories. -/
theorem Linked.addCarrier (linked : parts.Linked m m') {carrier : CarrierObject}
    (within : carrier.Within parts) :
    TwoRuns.Alike parts.Linked (Memory.addCarrier carrier m) (Memory.addCarrier carrier m') := by
  -- First the carrier's own block is registered, then the blocks of the backplane.
  rw [addCarrier_eq]
  refine TwoRuns.Alike.bind (TwoRuns.Alike.forM ?_ m m' linked) (fun _ _ => id)
    fun _ => TwoRuns.Alike.forM ?_
  · intro block member s t linked
    obtain ⟨owned, inside⟩ := within.tblock block member
    exact linked.addTBlock owned inside
  · intro plane member s t linked
    obtain ⟨owned, inside⟩ := within.planes plane member
    exact linked.addTBplBlock owned inside

/-- The computer does not notice a carrier registered elsewhere. -/
theorem Linked.addCarrier_elsewhere {carrier : CarrierObject} (foreign : carrier.Foreign parts)
    (elsewhere : carrier.Elsewhere parts) (m' : Memory) :
    TwoRuns.Leads (parts.Linked · m') (parts.Linked · m') (Memory.addCarrier carrier) := by
  -- Each of the loops keeps the tables linked, whatever is registered elsewhere.
  rw [addCarrier_eq]
  refine TwoRuns.Leads.bind (TwoRuns.Leads.forM ?_) (fun _ => id) fun _ => TwoRuns.Leads.forM ?_
  · intro block member s linked
    exact linked.addTBlock_elsewhere (foreign.tblock block member) (elsewhere.tblock block member)
  · intro plane member s linked
    exact linked.addTBplBlock_elsewhere (foreign.planes plane member)
      (elsewhere.planes plane member)

/-- The references that are reset are those of the backplane T-blocks. -/
theorem planes_refs (carrier : CarrierObject) : (carrier.st0block.toList ++
    carrier.st1block.toList ++ carrier.st2block.toList).map (·.ref) =
      carrier.planes.map (·.2.ref) := by
  simp [CarrierObject.planes, Function.comp_def]

/-- The computer resets a carrier of its own alike in both memories. -/
theorem Linked.resetCarrier (linked : parts.Linked m m') {carrier : CarrierObject}
    (within : carrier.Within parts) :
    parts.Linked (m.resetCarrier carrier) (m'.resetCarrier carrier) := by
  unfold Memory.resetCarrier
  rw [planes_refs]
  -- The blocks that are reset are owned by this computer, in both memories.
  refine ⟨linked.carriersApart.changeAll _ _, linked.planesApart.changeAll _ _,
    linked.carriersAgree.changeAll ?_ _, linked.planesAgree.changeAll ?_ _⟩
  · simp only [List.mem_map]
    rintro ref ⟨block, member, rfl⟩
    exact (within.tblock block member).1
  · simp only [List.mem_map]
    rintro ref ⟨plane, member, rfl⟩
    exact (within.planes plane member).1

/-- The computer does not notice that others reset a carrier of theirs. -/
theorem Linked.resetCarrier_foreign (linked : parts.Linked m m') {carrier : CarrierObject}
    (foreign : carrier.Foreign parts) : parts.Linked (m.resetCarrier carrier) m' := by
  have blocks : ∀ ref ∈ carrier.tblock.toList.map (·.ref), parts.carriers.others ref := by
    simp only [List.mem_map]
    rintro ref ⟨block, member, rfl⟩
    exact foreign.tblock block member
  have planeBlocks : ∀ ref ∈ carrier.planes.map (·.2.ref), parts.planes.others ref := by
    simp only [List.mem_map]
    rintro ref ⟨plane, member, rfl⟩
    exact foreign.planes plane member
  -- Blocks of others are changed in the one memory only, and that does not show.
  have carriers := linked.carriersAgree.changeAll_foreign linked.carriersApart blocks TBlock.reset
  have planes := linked.planesAgree.changeAll_foreign linked.planesApart planeBlocks
    BackplaneTBlock.reset
  unfold Memory.resetCarrier
  rw [planes_refs]
  exact ⟨carriers.2, planes.2, carriers.1, planes.1⟩

end Parts

end Memory

namespace Computer

variable {parts : Memory.Parts}

/-- The keys under which a serialization looks blocks up. -/
def lookups (computer : Computer) (tracer : Routing) (fuel : ℕ) : List BlockKey :=
  computer.sinks.flatMap fun place =>
    match place.1.location with
    | none => []
    | some loc => Tracer.lookups tracer fuel ⟨loc.stackId, loc.carrierId, loc.clusterId, place.2.val⟩

/-- The signal of a lane depends on the blocks that are looked up. -/
theorem sinkSignal_congr {computer : Computer} {tracer tracer' : Routing} {fuel : ℕ}
    {cluster : ClusterObject} {lane : Fin 32}
    (same : ∀ loc, cluster.location = some loc → ∀ key ∈ Tracer.lookups tracer fuel
      ⟨loc.stackId, loc.carrierId, loc.clusterId, lane.val⟩, tracer.SameAt tracer' key) :
    computer.sinkSignal tracer fuel cluster lane = computer.sinkSignal tracer' fuel cluster lane := by
  unfold sinkSignal
  -- Without a location both raise, and with one they trace from the same lane.
  cases found : cluster.location with
  | none => simp only [requireLoc, Redac.raised_bind]
  | some loc =>
    have traced := Tracer.findCoef_congr (same loc found)
    simp only [requireLoc, Redac.returned, pure_bind]
    rw [traced]

/-- The dependency information depends on the blocks that are looked up. -/
theorem dependencyInfo_congr {computer : Computer} {sorted : List (CarrierLoc × CarrierObject)}
    {tracer tracer' : Routing} {fuel : ℕ}
    (same : ∀ key ∈ computer.lookups tracer fuel, tracer.SameAt tracer' key) :
    computer.dependencyInfo sorted tracer fuel = computer.dependencyInfo sorted tracer' fuel := by
  -- The registry is only used to search for the signals.
  have found : computer.signals tracer fuel = computer.signals tracer' fuel := by
    unfold signals
    have each : ∀ place ∈ computer.sinks, computer.sinkSignal tracer fuel place.1 place.2 =
        computer.sinkSignal tracer' fuel place.1 place.2 := by
      intro place member
      refine sinkSignal_congr fun loc located key looked => same key ?_
      exact List.mem_flatMap.mpr ⟨place, member, by simpa only [located] using looked⟩
    rw [Fuel.mapM_congr each]
  unfold dependencyInfo
  rw [found]

/-- The carriers are only reordered. -/
theorem mem_of_sortedCarriers {computer : Computer} {sorted : List (CarrierLoc × CarrierObject)}
    (located : computer.sortedCarriers = .ok sorted) :
    ∀ place ∈ sorted, place.2 ∈ computer.carriers := by
  intro place member
  unfold sortedCarriers at located
  -- Sorting asks every carrier for its location first, and then only reorders.
  cases all : computer.carriers.mapM (fun carrier =>
      (requireLoc carrier.location).map fun loc => (loc, carrier)) with
  | error error => simp [all, bind, Except.bind] at located
  | ok found =>
    simp only [all, bind, Except.bind, pure, Except.pure, Except.ok.injEq] at located
    subst located
    exact mem_of_located all place ((List.mergeSort_perm _ _).mem_iff.mp member)

/-- The blocks of all carriers belong to the computer. -/
def Within (computer : Computer) (parts : Memory.Parts) : Prop :=
  ∀ carrier ∈ computer.carriers, carrier.Within parts

/-- The blocks of all carriers are those of others. -/
def Foreign (computer : Computer) (parts : Memory.Parts) : Prop :=
  ∀ carrier ∈ computer.carriers, carrier.Foreign parts

/-- The computer registers its carriers alike in both memories. -/
theorem registerCarriers_alike {computer : Computer} (within : computer.Within parts)
    {m m' : Memory} (linked : parts.Linked m m') :
    TwoRuns.Alike parts.Linked (computer.registerCarriers m) (computer.registerCarriers m') := by
  unfold registerCarriers
  -- Sorting does not look at the tables, so that both raise or both register the same.
  cases located : computer.sortedCarriers with
  | error error => exact ⟨rfl, linked⟩
  | ok sorted =>
    refine TwoRuns.Alike.bind (TwoRuns.Alike.forM ?_ m m' linked) (fun _ _ => id)
      fun _ s t linked => ⟨rfl, linked⟩
    intro place member s t linked
    exact linked.addCarrier (within place.2 (mem_of_sortedCarriers located place member))

/-- The computer does not notice that others register their carriers elsewhere. -/
theorem registerCarriers_elsewhere {computer : Computer} (foreign : computer.Foreign parts)
    (elsewhere : ∀ carrier ∈ computer.carriers, carrier.Elsewhere parts) (m' : Memory) :
    TwoRuns.Leads (parts.Linked · m') (parts.Linked · m') computer.registerCarriers := by
  intro m linked
  unfold registerCarriers
  cases located : computer.sortedCarriers with
  | error error => exact linked
  | ok sorted =>
    -- Each carrier registers its blocks elsewhere.
    have kept : TwoRuns.Leads (parts.Linked · m') (parts.Linked · m')
        (sorted.forM fun located => Memory.addCarrier located.2) := by
      refine TwoRuns.Leads.forM fun place member => ?_
      have inside := mem_of_sortedCarriers located place member
      exact Memory.Parts.Linked.addCarrier_elsewhere (foreign _ inside) (elsewhere _ inside) m'
    have returns : TwoRuns.Leads (parts.Linked · m') (parts.Linked · m') (pure sorted : MemoryM _) :=
      fun s linked => linked
    exact kept.bind (fun _ => id) (fun _ => returns) m linked

/-- Where a serialization looks stays within the parts, once the carriers are registered. -/
def LooksWithin (computer : Computer) (parts : Memory.Parts) (fuel : ℕ) (m : Memory) : Prop :=
  ∀ key ∈ computer.lookups (Raising.final (computer.registerCarriers m)).view fuel,
    parts.Uses (Raising.final (computer.registerCarriers m)) key

/-- The computer is serialized alike in both memories. -/
theorem serialize_alike {computer : Computer} (within : computer.Within parts) {m m' : Memory}
    (linked : parts.Linked m m') {fuel : ℕ} (looks : computer.LooksWithin parts fuel m) :
    (computer.serializeDependencyInfo fuel m).1 = (computer.serializeDependencyInfo fuel m').1 ∧
      parts.Linked (computer.serializeDependencyInfo fuel m).2
        (computer.serializeDependencyInfo fuel m').2 := by
  -- Registering is where the tables are changed; what follows only reads them.
  have registered := registerCarriers_alike within linked
  unfold LooksWithin at looks
  unfold serializeDependencyInfo
  cases ended : computer.registerCarriers m with
  | error error s =>
    cases ended' : computer.registerCarriers m' with
    | error error' t =>
      rw [ended, ended'] at registered
      exact ⟨by rw [registered.1], registered.2⟩
    | ok sorted' t =>
      rw [ended, ended'] at registered
      exact registered.elim
  | ok sorted s =>
    cases ended' : computer.registerCarriers m' with
    | error error' t =>
      rw [ended, ended'] at registered
      exact registered.elim
    | ok sorted' t =>
      rw [ended, ended'] at registered
      rw [ended] at looks
      obtain ⟨rfl, linked⟩ := registered
      -- All that the tracer looks at is linked, so that it finds the same signals.
      refine ⟨?_, linked⟩
      simp only [dependencyInfo_congr fun key looked => linked.sameAt (looks key looked)]

/-- The computer does not notice that another one is serialized. -/
theorem serialize_elsewhere {computer : Computer} (foreign : computer.Foreign parts)
    (elsewhere : ∀ carrier ∈ computer.carriers, carrier.Elsewhere parts) {m m' : Memory}
    (linked : parts.Linked m m') (fuel : ℕ) :
    parts.Linked (computer.serializeDependencyInfo fuel m).2 m' := by
  have registered := registerCarriers_elsewhere foreign elsewhere m' m linked
  unfold serializeDependencyInfo
  -- Whether registering has raised or not, nothing is written after it.
  cases ended : computer.registerCarriers m with
  | error error s => rwa [ended] at registered
  | ok sorted s => rwa [ended] at registered

/-- Both computers are the same, with blocks of their own, and their memories are linked. -/
structure Beside (parts : Memory.Parts) (s t : Computer × Memory) : Prop where
  computer : s.1 = t.1
  within : s.1.Within parts
  memory : parts.Linked s.2 t.2

/-- Replacing a cluster keeps what is said of carriers without their clusters. -/
theorem setCluster_keeps {holds : CarrierObject → Prop}
    (regardless : ∀ carrier clusters, holds carrier → holds { carrier with clusters })
    {computer : Computer} (each : ∀ carrier ∈ computer.carriers, holds carrier)
    (place : ℕ × ℕ) (cluster : ClusterObject) :
    ∀ carrier ∈ (computer.setCluster place cluster).carriers, holds carrier := by
  intro carrier member
  unfold setCluster at member
  obtain ⟨i, found⟩ := List.mem_iff_getElem?.mp member
  -- Only the clusters of one carrier are replaced.
  rw [List.getElem?_modify] at found
  obtain ⟨before, inside, rfl⟩ := Option.map_eq_some_iff.mp found
  have held := each before (List.mem_of_getElem? inside)
  split
  · exact regardless _ _ held
  · exact held

/-- Resetting keeps what is said of carriers without their clusters. -/
theorem reset_keeps {holds : CarrierObject → Prop}
    (regardless : ∀ carrier clusters, holds carrier → holds { carrier with clusters })
    {computer : Computer} (each : ∀ carrier ∈ computer.carriers, holds carrier) (m : Memory) :
    ∀ carrier ∈ (reset (computer, m)).1.carriers, holds carrier := by
  simp only [reset, List.mem_map]
  -- Its clusters are all that is changed in a carrier.
  rintro _ ⟨carrier, member, rfl⟩
  exact regardless _ _ (each carrier member)

/-- A cluster is found alike, without touching the memory. -/
theorem findCluster_alike {m : Memory} {s t : Computer × Memory}
    (still : Beside parts s t ∧ s.2 = m) (loc : ClusterLoc) :
    TwoRuns.Alike (fun s t => Beside parts s t ∧ s.2 = m) (findCluster loc s)
      (findCluster loc t) := by
  obtain ⟨computer, n⟩ := s
  obtain ⟨_, n'⟩ := t
  obtain rfl : computer = _ := still.1.computer
  -- A cluster is found by the computer alone, which is the same in both runs.
  simp only [findCluster]
  cases computer.locate loc with
  | ok place => exact ⟨rfl, still⟩
  | error error => exact ⟨rfl, still⟩

/-- A cluster is changed alike, without touching the memory. -/
theorem onCluster_alike {m : Memory} {s t : Computer × Memory}
    (still : Beside parts s t ∧ s.2 = m) (place : ℕ × ℕ)
    (change : ClusterObject → Except PyError ClusterObject) :
    TwoRuns.Alike (fun s t => Beside parts s t ∧ s.2 = m) (onCluster place change s)
      (onCluster place change t) := by
  obtain ⟨computer, n⟩ := s
  obtain ⟨_, n'⟩ := t
  obtain rfl : computer = _ := still.1.computer
  simp only [onCluster]
  -- The change works on the same cluster, and the memories are left alone.
  cases computer.cluster? place with
  | none => exact ⟨rfl, still⟩
  | some cluster =>
    simp only
    cases change cluster with
    | ok changed =>
      have within := setCluster_keeps (fun _ _ held => ⟨held.tblock, held.planes⟩) still.1.within
        place changed
      exact ⟨rfl, ⟨rfl, within, still.1.memory⟩, still.2⟩
    | error error => exact ⟨rfl, still⟩

/-- Work on the memory that ends alike does so for the computer. -/
theorem onMemory_alike {s t : Computer × Memory} (beside : Beside parts s t) {work : MemoryM Unit}
    (alike : TwoRuns.Alike parts.Linked (work s.2) (work t.2)) :
    TwoRuns.Alike (Beside parts) (onMemory work s) (onMemory work t) := by
  obtain ⟨computer, m⟩ := s
  obtain ⟨_, m'⟩ := t
  obtain rfl : computer = _ := beside.computer
  simp only [onMemory] at alike ⊢
  -- The work returns in both memories or raises in both.
  cases ended : work m with
  | ok done n =>
    cases ended' : work m' with
    | ok done' n' =>
      rw [ended, ended'] at alike
      exact ⟨rfl, rfl, beside.within, alike.2⟩
    | error error n' => rw [ended, ended'] at alike; exact alike.elim
  | error error n =>
    cases ended' : work m' with
    | ok done' n' => rw [ended, ended'] at alike; exact alike.elim
    | error error' n' =>
      rw [ended, ended'] at alike
      exact ⟨alike.1, rfl, beside.within, alike.2⟩

/-- The computer adds a carrier alike. -/
theorem addCarrier_alike {s t : Computer × Memory} (beside : Beside parts s t)
    {carrier : CarrierObject} (within : carrier.Within parts) :
    TwoRuns.Alike (Beside parts) (addCarrier carrier s) (addCarrier carrier t) := by
  obtain ⟨computer, m⟩ := s
  obtain ⟨_, m'⟩ := t
  obtain rfl : computer = _ := beside.computer
  -- The carrier is appended before its blocks are registered, and stays if that raises.
  have appended : Beside parts (⟨computer.carriers ++ [carrier]⟩, m)
      (⟨computer.carriers ++ [carrier]⟩, m') := by
    refine ⟨rfl, fun other member => ?_, beside.memory⟩
    rcases List.mem_append.mp member with before | new
    · exact beside.within other before
    · exact List.mem_singleton.mp new ▸ within
  exact onMemory_alike appended (beside.memory.addCarrier within)

/-- The computer routes alike. -/
theorem route_alike {s t : Computer × Memory} (beside : Beside parts s t) {srcLane sinkLane : LaneLoc}
    (srcMath sinkMath : Int) (coefficient : Number)
    (uses : Router.refusal srcLane sinkLane = none →
      ∀ setting ∈ Router.path srcLane sinkLane, parts.Uses s.2 setting.1.key) :
    TwoRuns.Alike (Beside parts) (route srcMath srcLane sinkLane sinkMath coefficient s)
      (route srcMath srcLane sinkLane sinkMath coefficient t) := by
  unfold route
  -- Until the T-blocks are routed the memory stays as it was.
  refine (findCluster_alike ⟨beside, rfl⟩ _).bind (fun _ _ still => still.1) fun src s₁ t₁ found => ?_
  refine (findCluster_alike found _).bind (fun _ _ still => still.1) fun tgt s₂ t₂ both => ?_
  refine (onCluster_alike both src _).bind (fun _ _ still => still.1) fun _ s₃ t₃ connected => ?_
  refine (onCluster_alike connected src _).bind (fun _ _ still => still.1) fun _ s₄ t₄ scaled => ?_
  have routed := scaled.1.memory.route (scaled.2.symm ▸ uses)
  refine (onMemory_alike scaled.1 routed).bind (fun _ _ => id) fun _ s₅ t₅ beside => ?_
  exact (onCluster_alike ⟨beside, rfl⟩ tgt _).weaken fun _ _ still => still.1

/-- The computer is reset alike. -/
theorem reset_beside {s t : Computer × Memory} (beside : Beside parts s t) :
    Beside parts (reset s) (reset t) := by
  obtain ⟨computer, m⟩ := s
  obtain ⟨_, m'⟩ := t
  obtain rfl : computer = _ := beside.computer
  refine ⟨rfl, reset_keeps (fun _ _ held => ⟨held.tblock, held.planes⟩) beside.within m, ?_⟩
  -- The memories are reset carrier by carrier.
  exact List.foldl_rel beside.memory fun carrier member s t linked =>
    linked.resetCarrier (beside.within carrier member)

/-- The computer, as it is beside another one that keeps to its own blocks. -/
structure Aside (parts : Memory.Parts) (m' : Memory) (s : Computer × Memory) : Prop where
  foreign : s.1.Foreign parts
  memory : parts.Linked s.2 m'

/-- Finding a cluster of another computer changes nothing. -/
theorem findCluster_aside {holds : Computer × Memory → Prop} (loc : ClusterLoc) :
    TwoRuns.Leads holds holds (findCluster loc) := by
  rintro ⟨computer, n⟩ held
  simp only [findCluster]
  -- The search changes nothing, whether it finds a cluster or not.
  cases computer.locate loc with
  | ok place => exact held
  | error error => exact held

/-- Changing a cluster of another computer does not touch the memory. -/
theorem onCluster_aside {m m' : Memory} (place : ℕ × ℕ)
    (change : ClusterObject → Except PyError ClusterObject) :
    TwoRuns.Leads (fun s => Aside parts m' s ∧ s.2 = m) (fun s => Aside parts m' s ∧ s.2 = m)
      (onCluster place change) := by
  rintro ⟨computer, n⟩ still
  simp only [onCluster]
  -- A cluster is changed in the computer, not in the memory.
  cases computer.cluster? place with
  | none => exact still
  | some cluster =>
    simp only
    cases change cluster with
    | ok changed =>
      have foreign := setCluster_keeps (fun _ _ held => ⟨held.tblock, held.planes⟩)
        still.1.foreign place changed
      exact ⟨⟨foreign, still.1.memory⟩, still.2⟩
    | error error => exact still

/-- Work of another computer on the memory that goes unnoticed. -/
theorem onMemory_aside {m' : Memory} {s : Computer × Memory} (aside : Aside parts m' s)
    {work : MemoryM Unit} (unnoticed : parts.Linked (Raising.final (work s.2)) m') :
    Aside parts m' (Raising.final (onMemory work s)) := by
  obtain ⟨computer, n⟩ := s
  simp only [onMemory] at unnoticed ⊢
  -- The computer stays the same however the work has ended.
  cases ended : work n with
  | ok done n' =>
    rw [ended] at unnoticed
    exact ⟨aside.foreign, unnoticed⟩
  | error error n' =>
    rw [ended] at unnoticed
    exact ⟨aside.foreign, unnoticed⟩

/-- Another computer adds a carrier elsewhere. -/
theorem addCarrier_aside {m' : Memory} {s : Computer × Memory} (aside : Aside parts m' s)
    {carrier : CarrierObject} (foreign : carrier.Foreign parts)
    (elsewhere : carrier.Elsewhere parts) :
    Aside parts m' (Raising.final (addCarrier carrier s)) := by
  obtain ⟨computer, n⟩ := s
  -- The foreign carrier is appended first, and then registers its blocks elsewhere.
  have appended : Aside parts m' (⟨computer.carriers ++ [carrier]⟩, n) := by
    refine ⟨fun other member => ?_, aside.memory⟩
    rcases List.mem_append.mp member with before | new
    · exact aside.foreign other before
    · exact List.mem_singleton.mp new ▸ foreign
  exact onMemory_aside appended
    (Memory.Parts.Linked.addCarrier_elsewhere foreign elsewhere m' n aside.memory)

/-- Another computer routes clear of the parts. -/
theorem route_aside {m' : Memory} {s : Computer × Memory} (aside : Aside parts m' s)
    {srcLane sinkLane : LaneLoc} (srcMath sinkMath : Int) (coefficient : Number)
    (spares : Router.refusal srcLane sinkLane = none →
      ∀ setting ∈ Router.path srcLane sinkLane, parts.Spares s.2 setting.1.key) :
    Aside parts m' (Raising.final (route srcMath srcLane sinkLane sinkMath coefficient s)) := by
  -- Only the third of the steps works on the memory, so that the first ones leave it as it was.
  have routes : TwoRuns.Leads (fun t => Aside parts m' t ∧ t.2 = s.2) (Aside parts m')
      (route srcMath srcLane sinkLane sinkMath coefficient) := by
    unfold route
    refine (findCluster_aside _).bind (fun _ => And.left) fun src => ?_
    refine (findCluster_aside _).bind (fun _ => And.left) fun tgt => ?_
    refine (onCluster_aside src _).bind (fun _ => And.left) fun _ => ?_
    refine (onCluster_aside src _).bind (fun _ => And.left) fun _ => ?_
    have routed : TwoRuns.Leads (fun t => Aside parts m' t ∧ t.2 = s.2) (Aside parts m')
        (onMemory (Memory.route srcLane sinkLane)) := fun t still =>
      onMemory_aside still.1 (still.1.memory.route_spared (still.2.symm ▸ spares))
    refine routed.bind (fun _ => id) fun _ t aside => ?_
    exact (onCluster_aside tgt _ t ⟨aside, rfl⟩).1
  exact routes s ⟨aside, rfl⟩

/-- Another computer is reset. -/
theorem reset_aside {m' : Memory} {s : Computer × Memory} (aside : Aside parts m' s) :
    Aside parts m' (reset s) := by
  obtain ⟨computer, n⟩ := s
  -- The carriers reset their blocks one by one, and none of these is ours.
  refine ⟨reset_keeps (fun _ _ held => ⟨held.tblock, held.planes⟩) aside.foreign n, ?_⟩
  exact List.foldlRecOn computer.carriers _ (motive := fun s => parts.Linked s m') aside.memory
    fun s linked carrier member => linked.resetCarrier_foreign (aside.foreign carrier member)

end Computer

end Pybrid
