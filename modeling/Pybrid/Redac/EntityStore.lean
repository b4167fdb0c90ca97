import Pybrid.Library.Keyed
import Pybrid.Redac.EntityRuns

/-! Entities are found and stored under their paths, and items configure them one by one. -/

namespace Pybrid

open Overwriting

section Store

variable {path other : Path} {entity second : EntityConfig}

/-- Of two configurations of one kind that are stored the second one stays. -/
theorem Node.store_store {β : Type} [BlockKind β] (same : entity.slot = second.slot) (node : Node β) :
    (node.store path entity).store path second = node.store path second := by
  have both : (BlockKind.project entity : Option β).isSome ↔
      (BlockKind.project second : Option β).isSome := by
    rw [BlockKind.project_isSome, BlockKind.project_isSome, same]
  by_cases here : node.path = path
  · simp only [Node.store, if_pos here]
    cases projected : (BlockKind.project second : Option β) with
    | some block => rfl
    | none =>
      -- Neither of them fits the block, which is kept.
      rw [projected, Option.isSome_none] at both
      have none : (BlockKind.project entity : Option β) = none := by simpa using both
      rw [none]
      rfl
  · simp only [Node.store, if_neg here]

/-- Configurations of different entities can be stored in any order. -/
theorem Node.store_comm {β : Type} [BlockKind β] (apart : path ≠ other) (node : Node β) :
    (node.store path entity).store other second = (node.store other second).store path entity := by
  simp only [Node.store]
  -- A node is at one of the two paths at most.
  by_cases here : node.path = path
  · have there : node.path ≠ other := here ▸ apart
    simp [here, apart]
  · by_cases there : node.path = other
    · simp [there, apart.symm]
    · simp [here, there]

/-- Of two configurations of one kind that are stored the second one stays. -/
theorem Cluster.store_store (same : entity.slot = second.slot) (cluster : Cluster) :
    (cluster.store path entity).store path second = cluster.store path second := by
  simp only [Cluster.store, Option.map_map, Function.comp_def, Node.store_store same]

/-- Configurations of different entities can be stored in any order. -/
theorem Cluster.store_comm (apart : path ≠ other) (cluster : Cluster) :
    (cluster.store path entity).store other second =
      (cluster.store other second).store path entity := by
  simp only [Cluster.store, Option.map_map, Function.comp_def, Node.store_comm apart]

/-- A block keeps its path. -/
theorem Node.mk_store {β : Type} [BlockKind β] (node : Node β) :
    (⟨node.path, (node.store path entity).config⟩ : Node β) = node.store path entity := by
  unfold Node.store
  split <;> rfl

/-- Of two configurations of one kind that are stored the second one stays. -/
theorem Carrier.store_store (same : entity.slot = second.slot) (carrier : Carrier) :
    (carrier.store path entity).store path second = carrier.store path second := by
  -- A carrier is stored like a block with its path and its configuration.
  have own : (⟨carrier.path, (Node.store path entity ⟨carrier.path, carrier.config⟩).config⟩ :
      Node CarrierConfig) = _ := Node.mk_store ⟨carrier.path, carrier.config⟩
  simp only [Carrier.store, own, Node.store_store same, List.map_map, Option.map_map,
    Function.comp_def, Cluster.store_store same, LocatedNode.store]
  rfl

/-- Configurations of different entities can be stored in any order. -/
theorem Carrier.store_comm (apart : path ≠ other) (carrier : Carrier) :
    (carrier.store path entity).store other second =
      (carrier.store other second).store path entity := by
  have own : ∀ {path entity}, (⟨carrier.path,
      (Node.store path entity ⟨carrier.path, carrier.config⟩).config⟩ : Node CarrierConfig) = _ :=
    Node.mk_store ⟨carrier.path, carrier.config⟩
  -- The stores commute at each of its nodes.
  simp only [Carrier.store, own, Node.store_comm apart, List.map_map, Option.map_map,
    Function.comp_def, Cluster.store_comm apart, LocatedNode.store]

namespace Redac

/-- Computers with the same carriers are the same. -/
theorem ext_carriers {r r' : Redac} (same : r.carriers = r'.carriers) : r = r' := by
  cases r
  cases r'
  congr

/-- Of two configurations of one kind that are stored the second one stays. -/
theorem store_store (same : entity.slot = second.slot) (r : Redac) :
    (r.store path entity).store path second = r.store path second := by
  refine ext_carriers ?_
  simp only [store, List.map_map, Function.comp_def, Carrier.store_store same]

/-- Configurations of different entities can be stored in any order. -/
theorem store_comm (apart : path ≠ other) (r : Redac) :
    (r.store path entity).store other second = (r.store other second).store path entity := by
  refine ext_carriers ?_
  simp only [store, List.map_map, Function.comp_def, Carrier.store_comm apart]

/-- Storing under one path does not change what is found under another one. -/
theorem getEntity_store_other (apart : other ≠ path) (r : Redac) :
    (r.store path entity).getEntity other = r.getEntity other := by
  simp only [getEntity, store_traversal, List.find?_map, Function.comp_def]
  have named : ∀ entry : Entry, (Entry.replace path entity entry).1 = entry.1 := fun _ => rfl
  simp only [named]
  -- The first entity at the other path is not the one that was stored.
  cases found : r.traversal.find? (fun entry => decide (entry.1 = other)) with
  | none => rfl
  | some entry =>
    have here : entry.1 = other := by simpa using List.find?_some found
    simp [Entry.replace, here, apart]

end Redac

end Store

/-- Which entity an item configures, and with what; other items say nothing about any entity. -/
def Wire.Item.entry (item : Wire.Item) : Option (Path × Wire.Payload) :=
  match item.kind with
  | none => none
  | some (.dependencyInfo _) => none
  | some payload => some (item.path, payload)

namespace Redac

/-- An item configures the entity that it names, if it does. -/
theorem deserializeItem_eq (r : Redac) (item : Wire.Item) :
    r.deserializeItem item = match item.entry with
      | none => .ok r
      | some entry => Keyed.step getEntity store EntityConfig.configure r entry := by
  -- Every payload but a wiring or a specification is an entry.
  obtain ⟨path, _ | payload⟩ := item
  · rfl
  · cases payload <;> rfl

end Redac

namespace WiredRedac

/-- What is in the tree is of the class of the state. -/
theorem inTree_kind (state : EntityState) : state.inTree.kind = state.kind := by
  cases state <;> rfl

/-- What is in the tree and what is beside it make up a state. -/
theorem withSelection_beside (state : EntityState) :
    state.inTree.withSelection state.beside = state := by
  rcases state with (_ | _ | _ | _ | _ | _ | _ | _) | _ <;> rfl

/-- An entity has the class of its state. -/
theorem withSelection_kind (entity : EntityConfig) (selection : Option (Vector (Option Int) 16)) :
    (entity.withSelection selection).kind = entity.kind := by
  unfold EntityConfig.withSelection
  split <;> rfl

/-- The state under a path, told from the entity in the tree and the selection beside it. -/
theorem entityState_eq_ok {computer : WiredRedac} {path : Path} {state : EntityState} :
    computer.entityState path = .ok state ↔ ∃ entity, computer.redac.getEntity path = .ok entity ∧
      entity.withSelection (computer.selections path) = state := Raising.except_map_eq_ok

/-- The states of a computer's entities are its parts, found and stored under their paths. -/
theorem states_laws : Keyed.Laws entityState storeState EntityState.kind where
  -- The state that was stored is read back, and it has the kind of the old one.
  get_put := by
    intro computer path state changed held same
    obtain ⟨entity, found, rfl⟩ := entityState_eq_ok.mp held
    have fits : changed.inTree.kind = entity.kind := by
      rw [inTree_kind, same, withSelection_kind]
    refine entityState_eq_ok.mpr ⟨changed.inTree,
      Redac.getEntity_store found (EntityConfig.slot_of_kind fits), ?_⟩
    simp only [storeState, Function.update_self, withSelection_beside]
  get_put_other := by
    intro computer path other state apart
    simp only [entityState, storeState, Redac.getEntity_store_other apart,
      Function.update_of_ne apart]
  put_put := by
    intro computer path first second same
    have fits : first.inTree.kind = second.inTree.kind := by rw [inTree_kind, inTree_kind, same]
    simp only [storeState, Function.update_idem, Redac.store_store (EntityConfig.slot_of_kind fits)]
  -- The tree and the attributes beside it are both stored by path.
  put_comm := by
    intro computer path other first second apart
    simp only [storeState, Function.update_comm apart, Redac.store_comm apart]

end WiredRedac

end Pybrid
