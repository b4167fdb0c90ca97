import Pybrid.Library.SharedObjects
import Pybrid.Redac.RouteSequence

/-! The T-blocks as objects, found through the tables that all routers and tracers share. -/

namespace Pybrid

/-- The class attributes of `Routing` and the blocks they refer to. -/
structure Memory where
  /-- `carrier_t_blocks` with `dummy`. -/
  carriers : Shared.Store CarrierLoc TBlock
  /-- `bpl_t_blocks` with `bpl_dummy`, by stack and partition. -/
  planes : Shared.Store (Int × Int) BackplaneTBlock

/-- Operations on the shared blocks raise, and keep what was written before. -/
abbrev MemoryM := EStateM PyError Memory

namespace Memory

/-- No block is registered, and every block is new. -/
def blank : Memory where
  carriers := ⟨fun _ => none, fun _ => .new⟩
  planes := ⟨fun _ => none, fun _ => .new⟩

/-- What a router or a tracer finds in the tables. -/
def view (m : Memory) : Routing where
  carrierTBlocks loc := (m.carriers.table loc).map fun ref => m.carriers.object (some ref)
  bplTBlocks stack index :=
    (m.planes.table (stack, index)).map fun ref => m.planes.object (some ref)
  dummy := m.carriers.object none
  bplDummy := m.planes.object none

@[simp] theorem view_findCarrierTBlock (m : Memory) (loc : CarrierLoc) :
    m.view.findCarrierTBlock loc = m.carriers.find loc := by
  simp only [Routing.findCarrierTBlock, view, Shared.Store.find]
  cases m.carriers.table loc <;> rfl

@[simp] theorem view_findBplTBlock (m : Memory) (stack index : Int) :
    m.view.findBplTBlock stack index = m.planes.find (stack, index) := by
  simp only [Routing.findBplTBlock, view, Shared.Store.find]
  cases m.planes.table (stack, index) <;> rfl

/-- Let a multiplexer of the block found select a sector; the block is changed in place. -/
def connect : Mux × Int → MemoryM Unit
  | (.carrier loc sector lane, source), m =>
    match (m.carriers.find loc).connect source sector lane with
    -- The block is written where the registry points to.
    | .ok tBlock => .ok () { m with carriers := m.carriers.assign (m.carriers.table loc) tBlock }
    | .error error => .error error m
  | (.backplane stack index sector lane, source), m =>
    match (m.planes.find (stack, index)).connect source sector lane with
    | .ok tBlock =>
      .ok () { m with planes := m.planes.assign (m.planes.table (stack, index)) tBlock }
    | .error error => .error error m

/-- Let multiplexers select sectors, one after the other. -/
def connectAll : List (Mux × Int) → MemoryM Unit
  | [] => pure ()
  | setting :: settings => do
    connect setting
    connectAll settings

/-- `Router.route` on the objects: its checks, and then the connections of its path. -/
def route (src dst : LaneLoc) : MemoryM Unit := fun m =>
  match Router.refusal src dst with
  | some error => .error error m
  | none => connectAll (Router.path src dst) m

/-- No object is registered twice, which the locations of the blocks see to. -/
structure Single (m : Memory) : Prop where
  carriers : ∀ loc other ref, m.carriers.table loc = some ref →
    m.carriers.table other = some ref → loc = other
  planes : ∀ key other ref, m.planes.table key = some ref →
    m.planes.table other = some ref → key = other

/-- An outcome as the routers and tracers see it. -/
def viewed : EStateM.Result PyError Memory Unit → EStateM.Result PyError Routing Unit
  | .ok () m => .ok () m.view
  | .error error m => .error error m.view

/-- Changing the block found at a location is storing it there. -/
theorem view_assign_carrier {m : Memory} (single : m.Single) (loc : CarrierLoc) (tBlock : TBlock) :
    ({ m with carriers := m.carriers.assign (m.carriers.table loc) tBlock } : Memory).view =
      m.view.storeCarrierTBlock loc tBlock := by
  cases found : m.carriers.table loc with
  | none =>
    -- The stand-in is nowhere registered, so only the lookups without a block change.
    simp only [Routing.storeCarrierTBlock, view, found, Option.map_none, Shared.Store.assign,
      Routing.mk.injEq, Function.update_self, and_true]
    funext other
    cases m.carriers.table other <;> simp
  | some ref =>
    simp only [Routing.storeCarrierTBlock, Routing.addTBlock, view, found, Option.map_some,
      Shared.Store.assign, Routing.mk.injEq, and_true, true_and]
    refine ⟨?_, by simp⟩
    funext other
    by_cases same : other = loc
    · simp [same, found]
    · rw [Function.update_of_ne same]
      cases there : m.carriers.table other with
      | none => rfl
      | some another =>
        have different : another ≠ ref := by
          rintro rfl
          exact same (single.carriers _ _ _ there found)
        simp [different]

/-- Changing the block found on a backplane is storing it there. -/
theorem view_assign_plane {m : Memory} (single : m.Single) (stack index : Int)
    (tBlock : BackplaneTBlock) :
    ({ m with planes := m.planes.assign (m.planes.table (stack, index)) tBlock } : Memory).view =
      m.view.storeBplTBlock stack index tBlock := by
  cases found : m.planes.table (stack, index) with
  | none =>
    simp only [Routing.storeBplTBlock, view, found, Option.map_none, Shared.Store.assign,
      Routing.mk.injEq, Function.update_self, and_true, true_and]
    funext other place
    cases m.planes.table (other, place) <;> simp
  | some ref =>
    simp only [Routing.storeBplTBlock, Routing.addTBplBlock, view, found, Option.map_some,
      Shared.Store.assign, Routing.mk.injEq, true_and]
    refine ⟨?_, by simp⟩
    funext other place
    -- An object is registered once, so no other entry sees the change.
    by_cases same : (other, place) = (stack, index)
    · obtain ⟨rfl, rfl⟩ := Prod.mk.inj same
      simp [found]
    · have unchanged : Function.update (m.view.bplTBlocks) stack (Function.update
          (m.view.bplTBlocks stack) index (some tBlock)) other place =
          m.view.bplTBlocks other place := by
        by_cases row : other = stack
        · subst row
          have column : place ≠ index := fun equal => same (by rw [equal])
          simp [column]
        · simp [row]
      refine Eq.trans ?_ unchanged.symm
      simp only [view]
      cases there : m.planes.table (other, place) with
      | none => rfl
      | some another =>
        have different : another ≠ ref := by
          rintro rfl
          exact same (single.planes _ _ _ there found)
        simp [different]

/-- Connecting on the objects is what the model of the tables by value does. -/
theorem connect_viewed {m : Memory} (single : m.Single) (setting : Mux × Int) :
    Router.connectMux setting m.view = viewed (connect setting m) := by
  obtain ⟨mux, source⟩ := setting
  -- A carrier's T-block and a plane's are looked up in their own tables.
  cases mux with
  | carrier loc sector lane =>
    simp only [Router.connectMux, Router.connectCarrier, view_findCarrierTBlock, connect]
    cases (m.carriers.find loc).connect source sector lane with
    | ok tBlock => simp only [viewed, view_assign_carrier single]
    | error error => rfl
  | backplane stack index sector lane =>
    simp only [Router.connectMux, Router.connectBpl, view_findBplTBlock, connect]
    cases (m.planes.find (stack, index)).connect source sector lane with
    | ok tBlock => simp only [viewed, view_assign_plane single]
    | error error => rfl

/-- Connecting changes no registration. -/
theorem connect_tables (setting : Mux × Int) (m : Memory) :
    (Raising.final (connect setting m)).carriers.table = m.carriers.table ∧
      (Raising.final (connect setting m)).planes.table = m.planes.table := by
  obtain ⟨mux, source⟩ := setting
  -- A block is changed where it is, and stays registered as it was.
  cases mux <;> simp only [connect] <;> split <;> exact ⟨rfl, rfl⟩

/-- Objects stay registered once. -/
theorem Single.of_tables {m m' : Memory} (single : m.Single)
    (same : m'.carriers.table = m.carriers.table ∧ m'.planes.table = m.planes.table) : m'.Single :=
  ⟨by rw [same.1]; exact single.carriers, by rw [same.2]; exact single.planes⟩

/-- A list of connections on the objects, as the routers see it. -/
theorem connectAll_viewed : ∀ (settings : List (Mux × Int)) (m : Memory), m.Single →
    Router.connectAll settings m.view = viewed (connectAll settings m) := by
  intro settings
  induction settings with
  | nil => exact fun _ _ => rfl
  | cons setting settings ih =>
    intro m single
    -- The first connection is the same on both, and leaves the objects registered once.
    have first := connect_viewed single setting
    have tables := connect_tables setting m
    cases connected : connect setting m with
    | ok done middle =>
      rw [connected] at first tables
      have whole : connectAll (setting :: settings) m = connectAll settings middle :=
        Raising.bind_of_ok connected
      have viewedWhole : Router.connectAll (setting :: settings) m.view =
          Router.connectAll settings middle.view := Raising.bind_of_ok first
      rw [whole, viewedWhole]
      exact ih middle (single.of_tables tables)
    | error error middle =>
      rw [connected] at first
      have whole : connectAll (setting :: settings) m = .error error middle :=
        Raising.bind_of_error connected
      have viewedWhole : Router.connectAll (setting :: settings) m.view =
          .error error middle.view := Raising.bind_of_error first
      rw [whole, viewedWhole]
      rfl

/-- The router's calls on the objects are those of the model of the tables by value. -/
theorem route_viewed {m : Memory} (single : m.Single) (src dst : LaneLoc) :
    Router.route src dst m.view = viewed (route src dst m) := by
  rw [Router.route_eq]
  unfold route
  -- What is refused is refused before any block is touched.
  cases Router.refusal src dst with
  | some error => rfl
  | none => exact connectAll_viewed _ _ single

end Memory

end Pybrid
