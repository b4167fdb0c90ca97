import Pybrid.Redac.BlockSerializer

/-! The entity tree of a computer, and access to its entities by path. -/

namespace Pybrid

/-- A block in the entity tree. -/
structure Node (β : Type) where
  path : Path
  config : β

/-- A block that registers with the router, under its location. -/
structure LocatedNode (β location : Type) extends Node β where
  location : Option location

/-- A cluster: two math slots and the three blocks of its signal path. -/
structure Cluster where
  path : Path
  location : Option ClusterLoc
  m0block : Option (Node MBlock)
  m1block : Option (Node MBlock)
  ublock : Node UBlock
  cblock : Node CBlock
  iblock : Node IBlock

/-- An analog-to-digital channel. -/
structure ADCChannel where
  index : Int
  gain : ℚ
  offset : ℚ
  probe : Int
  deriving DecidableEq, Repr

/-- What is configured on a carrier itself. -/
structure CarrierConfig where
  adcConfig : List (Option ADCChannel)
  aclSelect : Option (List String)
  frontPanelIo : Option (List Wire.FrontPanelIOMode)
  /-- Where received front panel modes are put. -/
  ioModes : Option (List Wire.FrontPanelIOMode)
  deriving DecidableEq, Repr

/-- A carrier board. -/
structure Carrier where
  path : Path
  location : Option CarrierLoc
  config : CarrierConfig
  clusters : List Cluster
  tblock : Option (LocatedNode TBlock CarrierLoc)
  st0block : Option (LocatedNode BackplaneTBlock Int)
  st1block : Option (LocatedNode BackplaneTBlock Int)
  st2block : Option (LocatedNode BackplaneTBlock Int)

/-- The configuration of an entity of any kind. -/
inductive EntityConfig where
  | carrier (config : CarrierConfig)
  | cluster
  | mBlock (block : MBlock)
  | uBlock (block : UBlock)
  | cBlock (block : CBlock)
  | iBlock (block : IBlock)
  | tBlock (block : TBlock)
  | bplTBlock (block : BackplaneTBlock)

/-- The places an entity can take in the tree. -/
inductive EntitySlot where
  | carrier
  | cluster
  | mBlock
  | uBlock
  | cBlock
  | iBlock
  | tBlock
  | bplTBlock
  deriving DecidableEq, Repr

/-- The place an entity takes. -/
def EntityConfig.slot : EntityConfig → EntitySlot
  | .carrier _ => .carrier
  | .cluster => .cluster
  | .mBlock _ => .mBlock
  | .uBlock _ => .uBlock
  | .cBlock _ => .cBlock
  | .iBlock _ => .iBlock
  | .tBlock _ => .tBlock
  | .bplTBlock _ => .bplTBlock

/-- A kind of block as a kind of entity. -/
class BlockKind (β : Type) where
  /-- A block of this kind as an entity. -/
  inject : β → EntityConfig
  /-- The block, if the entity is of this kind. -/
  project : EntityConfig → Option β
  /-- The place blocks of this kind take. -/
  slot : EntitySlot
  slot_inject : ∀ block, (inject block).slot = slot
  project_isSome : ∀ entity, (project entity).isSome ↔ entity.slot = slot
  inject_project : ∀ entity block, project entity = some block → inject block = entity

instance : BlockKind MBlock where
  inject := .mBlock
  project
    | .mBlock block => some block
    | _ => none
  slot := .mBlock
  slot_inject _ := rfl
  project_isSome entity := by cases entity <;> simp [EntityConfig.slot]
  inject_project entity := by cases entity <;> simp

instance : BlockKind UBlock where
  inject := .uBlock
  project
    | .uBlock block => some block
    | _ => none
  slot := .uBlock
  slot_inject _ := rfl
  project_isSome entity := by cases entity <;> simp [EntityConfig.slot]
  inject_project entity := by cases entity <;> simp

instance : BlockKind CBlock where
  inject := .cBlock
  project
    | .cBlock block => some block
    | _ => none
  slot := .cBlock
  slot_inject _ := rfl
  project_isSome entity := by cases entity <;> simp [EntityConfig.slot]
  inject_project entity := by cases entity <;> simp

instance : BlockKind IBlock where
  inject := .iBlock
  project
    | .iBlock block => some block
    | _ => none
  slot := .iBlock
  slot_inject _ := rfl
  project_isSome entity := by cases entity <;> simp [EntityConfig.slot]
  inject_project entity := by cases entity <;> simp

instance : BlockKind TBlock where
  inject := .tBlock
  project
    | .tBlock block => some block
    | _ => none
  slot := .tBlock
  slot_inject _ := rfl
  project_isSome entity := by cases entity <;> simp [EntityConfig.slot]
  inject_project entity := by cases entity <;> simp

instance : BlockKind BackplaneTBlock where
  inject := .bplTBlock
  project
    | .bplTBlock block => some block
    | _ => none
  slot := .bplTBlock
  slot_inject _ := rfl
  project_isSome entity := by cases entity <;> simp [EntityConfig.slot]
  inject_project entity := by cases entity <;> simp

instance : BlockKind CarrierConfig where
  inject := .carrier
  project
    | .carrier config => some config
    | _ => none
  slot := .carrier
  slot_inject _ := rfl
  project_isSome entity := by cases entity <;> simp [EntityConfig.slot]
  inject_project entity := by cases entity <;> simp

/-- An entity with its path. -/
abbrev Entry := Path × EntityConfig

/-- An entry after its entity was replaced by another one of its kind. -/
def Entry.replace (path : Path) (entity : EntityConfig) (entry : Entry) : Entry :=
  (entry.1, if entry.1 = path ∧ entity.slot = entry.2.slot then entity else entry.2)

namespace Node

variable {β : Type} [BlockKind β]

/-- A block as an entry. -/
def entry (node : Node β) : Entry := (node.path, BlockKind.inject node.config)

/-- Replace the configuration of the block with this path. -/
def store (path : Path) (entity : EntityConfig) (node : Node β) : Node β :=
  if node.path = path then
    { node with config := (BlockKind.project entity).getD node.config }
  else node

/-- Storing into a block replaces its entry. -/
theorem store_entry (path : Path) (entity : EntityConfig) (node : Node β) :
    (node.store path entity).entry = node.entry.replace path entity := by
  by_cases here : node.path = path
  · have place : node.entry.2.slot = BlockKind.slot (β := β) := BlockKind.slot_inject node.config
    cases projected : (BlockKind.project entity : Option β) with
    | none =>
      -- An entity of another kind does not fit, and the block is kept.
      have foreign : ¬ (node.entry.1 = path ∧ entity.slot = node.entry.2.slot) := by
        rw [place, ← BlockKind.project_isSome, projected]
        simp
      rw [Entry.replace, if_neg foreign]
      simp [store, here, projected, entry]
    | some block =>
      have own : node.entry.1 = path ∧ entity.slot = node.entry.2.slot := by
        rw [place, ← BlockKind.project_isSome, projected]
        exact ⟨here, rfl⟩
      rw [Entry.replace, if_pos own]
      simp [store, here, projected, entry, BlockKind.inject_project entity block projected]
  · have foreign : ¬ (node.entry.1 = path ∧ entity.slot = node.entry.2.slot) :=
      fun both => here both.1
    rw [Entry.replace, if_neg foreign]
    simp [store, here]

end Node

/-- The entries of the blocks of a cluster, in the order of its children. -/
def Cluster.blockEntries (cluster : Cluster) : List Entry :=
  cluster.m0block.toList.map Node.entry ++ cluster.m1block.toList.map Node.entry ++
    [cluster.ublock.entry, cluster.cblock.entry, cluster.iblock.entry]

/-- Replace the configuration of the block with this path. -/
def Cluster.store (path : Path) (entity : EntityConfig) (cluster : Cluster) : Cluster :=
  { cluster with
    m0block := cluster.m0block.map (Node.store path entity)
    m1block := cluster.m1block.map (Node.store path entity)
    ublock := cluster.ublock.store path entity
    cblock := cluster.cblock.store path entity
    iblock := cluster.iblock.store path entity }

@[simp] theorem Cluster.store_path (path : Path) (entity : EntityConfig) (cluster : Cluster) :
    (cluster.store path entity).path = cluster.path := rfl

/-- Storing into a cluster replaces the entries of its blocks. -/
theorem Cluster.store_blockEntries (path : Path) (entity : EntityConfig) (cluster : Cluster) :
    (cluster.store path entity).blockEntries =
      cluster.blockEntries.map (Entry.replace path entity) := by
  simp only [store, blockEntries, List.map_append, List.map_cons, List.map_nil, Node.store_entry,
    Option.toList_map, List.map_map, Function.comp_def]

/-- Replace the configuration of the block with this path. -/
def LocatedNode.store {β location : Type} [BlockKind β] (path : Path) (entity : EntityConfig)
    (node : LocatedNode β location) : LocatedNode β location :=
  { node with toNode := node.toNode.store path entity }

namespace Carrier

/-- The carrier itself as an entry. -/
def entry (carrier : Carrier) : Entry := (carrier.path, .carrier carrier.config)

/--
The entries of a carrier and everything below it.

The serializer's queue yields the carrier, then its children, then the blocks of its clusters.
-/
def traversal (carrier : Carrier) : List Entry :=
  carrier.entry :: carrier.clusters.map (fun cluster => (cluster.path, .cluster)) ++
    carrier.tblock.toList.map (fun node => node.toNode.entry) ++
    carrier.st0block.toList.map (fun node => node.toNode.entry) ++
    carrier.st1block.toList.map (fun node => node.toNode.entry) ++
    carrier.st2block.toList.map (fun node => node.toNode.entry) ++
    carrier.clusters.flatMap Cluster.blockEntries

/-- Replace the configuration of the entity with this path. -/
def store (path : Path) (entity : EntityConfig) (carrier : Carrier) : Carrier :=
  { carrier with
    config := (Node.store path entity ⟨carrier.path, carrier.config⟩).config
    clusters := carrier.clusters.map (Cluster.store path entity)
    tblock := carrier.tblock.map (LocatedNode.store path entity)
    st0block := carrier.st0block.map (LocatedNode.store path entity)
    st1block := carrier.st1block.map (LocatedNode.store path entity)
    st2block := carrier.st2block.map (LocatedNode.store path entity) }

/-- Storing into a carrier replaces its entry. -/
theorem store_entry (path : Path) (entity : EntityConfig) (carrier : Carrier) :
    (carrier.store path entity).entry = carrier.entry.replace path entity := by
  rw [← show (Node.store path entity ⟨carrier.path, carrier.config⟩).entry =
      (carrier.store path entity).entry from ?_]
  · exact Node.store_entry path entity ⟨carrier.path, carrier.config⟩
  · -- A carrier is stored like a block with its path and its configuration.
    simp only [Node.entry, Carrier.entry, store, Node.store]
    split <;> rfl

/-- Storing into a carrier replaces the entries below it. -/
theorem store_traversal (path : Path) (entity : EntityConfig) (carrier : Carrier) :
    (carrier.store path entity).traversal =
      carrier.traversal.map (Entry.replace path entity) := by
  -- Clusters carry no configuration, so replacing leaves their entries alone.
  have clusters : ∀ cluster : Cluster, Entry.replace path entity (cluster.path, .cluster) =
      (cluster.path, .cluster) := by
    intro cluster
    simp only [Entry.replace, Prod.mk.injEq, true_and]
    split
    · rename_i both
      cases entity <;> simp_all [EntityConfig.slot]
    · rfl
  simp only [traversal, List.map_append, List.map_cons, store_entry]
  simp only [store, List.map_map, Option.toList_map, List.flatMap_map, List.map_flatMap,
    Function.comp_def, Cluster.store_blockEntries, Cluster.store_path, LocatedNode.store,
    Node.store_entry, clusters]

end Carrier

/-- A computer: its carriers, whose entities all have different paths. -/
structure Redac where
  carriers : List Carrier
  /-- A path identifies an entity. -/
  unique : ((carriers.flatMap Carrier.traversal).map Prod.fst).Nodup

namespace Redac

/-- All entities with their paths. -/
def traversal (r : Redac) : List Entry := r.carriers.flatMap Carrier.traversal

/-- Replacing an entity keeps its path. -/
theorem replace_paths (path : Path) (entity : EntityConfig) (entries : List Entry) :
    (entries.map (Entry.replace path entity)).map Prod.fst = entries.map Prod.fst := by
  -- Replacing touches the second component only.
  simp [Entry.replace, Function.comp_def]

/-- Replace the configuration of the entity with this path. -/
def store (r : Redac) (path : Path) (entity : EntityConfig) : Redac where
  carriers := r.carriers.map (Carrier.store path entity)
  unique := by
    -- Paths are not replaced, so that they stay different.
    have replaced : (r.carriers.map (Carrier.store path entity)).flatMap Carrier.traversal =
        (r.carriers.flatMap Carrier.traversal).map (Entry.replace path entity) := by
      simp [List.flatMap_map, List.map_flatMap, Carrier.store_traversal]
    rw [replaced, replace_paths]
    exact r.unique

/-- Storing into a computer replaces the entries with that path. -/
theorem store_traversal (r : Redac) (path : Path) (entity : EntityConfig) :
    (r.store path entity).traversal = r.traversal.map (Entry.replace path entity) := by
  simp [traversal, store, List.flatMap_map, List.map_flatMap, Carrier.store_traversal]

/-- The entity with this path. -/
def getEntity (r : Redac) (path : Path) : Except PyError EntityConfig :=
  -- The path index of the source is a search through the tree, since paths are unique.
  match r.traversal.find? fun entry => entry.1 = path with
  | some entry => .ok entry.2
  | none =>
    let shown := String.intercalate "/" path
    .error ⟨.entityDoesNotExist, s!"Entity with path {shown} does not exist."⟩

/-- The entity found is one of the tree. -/
theorem mem_of_getEntity {r : Redac} {path : Path} {entity : EntityConfig}
    (found : r.getEntity path = .ok entity) : (path, entity) ∈ r.traversal := by
  -- The search returns a member, and its path is the one that was asked for.
  simp only [getEntity] at found
  split at found
  · rename_i entry located
    have member := List.mem_of_find?_eq_some located
    have named := List.find?_some located
    simp only [decide_eq_true_eq] at named
    simp only [Except.ok.injEq] at found
    rw [← named, ← found]
    exact member
  · simp at found

/-- Every entity of the tree is found under its path. -/
theorem getEntity_of_mem {r : Redac} {path : Path} {entity : EntityConfig}
    (member : (path, entity) ∈ r.traversal) : r.getEntity path = .ok entity := by
  -- The search succeeds because the entry is there, and paths are unique.
  simp only [getEntity]
  split
  · rename_i entry located
    have found := List.mem_of_find?_eq_some located
    have named := List.find?_some located
    simp only [decide_eq_true_eq] at named
    -- Two entries with one path are one entry.
    have same := List.inj_on_of_nodup_map r.unique found member named
    rw [same]
  · rename_i absent
    have none := List.find?_eq_none.mp absent _ member
    simp at none

/-- What was stored is found again. -/
theorem getEntity_store {r : Redac} {path : Path} {old entity : EntityConfig}
    (found : r.getEntity path = .ok old) (kind : entity.slot = old.slot) :
    (r.store path entity).getEntity path = .ok entity := by
  -- Storing replaces the entry that was found, which is of the same kind.
  apply getEntity_of_mem
  rw [store_traversal]
  refine List.mem_map.mpr ⟨(path, old), mem_of_getEntity found, ?_⟩
  simp [Entry.replace, kind]

/-- Storing under one path leaves the entities under the others. -/
theorem getEntity_store_ne {r : Redac} {path other : Path} {entity old : EntityConfig}
    (foreign : other ≠ path) (found : r.getEntity other = .ok old) :
    (r.store path entity).getEntity other = .ok old := by
  -- The entry has another path, so that replacing leaves it alone.
  apply getEntity_of_mem
  rw [store_traversal]
  refine List.mem_map.mpr ⟨(other, old), mem_of_getEntity found, ?_⟩
  simp [Entry.replace, foreign]

end Redac

end Pybrid
