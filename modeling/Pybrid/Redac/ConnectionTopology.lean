import Pybrid.Redac.Connections

/-! The topology of a controller's connections, over any sequence of calls. -/

namespace Pybrid

namespace Discovery

namespace ConnectionManager

/-- Keeping descriptions twice keeps all of them. -/
theorem described_described (manager : ConnectionManager) (first second : List ModuleItem) :
    (manager.described first).described second = manager.described (first ++ second) := by
  simp [described]

/-- Keeping an item returns. -/
theorem cache_eq (item : ModuleItem) (manager : ConnectionManager) :
    cache item manager = .ok () (manager.described [item]) := rfl

/-- Keeping items returns. -/
theorem cache_forM (items : List ModuleItem) (manager : ConnectionManager) :
    items.forM cache manager = .ok () (manager.described items) := by
  -- Each item is described in turn, so that the claim is for every manager.
  induction items generalizing manager with
  | nil =>
    show EStateM.Result.ok () manager = _
    simp [described]
  | cons item later ih =>
    show (cache item >>= fun _ => later.forM cache) manager = _
    rw [Raising.bind_of_ok (cache_eq item manager), ih, described_described,
      List.singleton_append]

/-- An entity with carriers adds these. -/
theorem addEntity_of_carriers {entity : PbEntity} (reported : reportedCarriers entity ≠ [])
    (carriers : List CarrierInfo) (manager : ConnectionManager) :
    addEntity carriers entity manager =
      .ok (carriers ++ carrierInfos entity) (manager.described [describe entity]) := by
  -- The entity is described before its carriers are looked at.
  rw [addEntity, Raising.bind_of_ok (cache_eq (describe entity) manager), detectTopology, if_neg reported]
  rfl

/-- An entity without carriers raises, and has been kept. -/
theorem addEntity_of_none {entity : PbEntity} (reported : reportedCarriers entity = [])
    (carriers : List CarrierInfo) (manager : ConnectionManager) :
    ∃ error, addEntity carriers entity manager =
      .error error (manager.described [describe entity]) := by
  -- The description stays although the entity raises.
  rw [addEntity, Raising.bind_of_ok (cache_eq (describe entity) manager), detectTopology, if_pos reported]
  exact ⟨_, rfl⟩

/-- Entities that all have carriers are kept, and their carriers collected. -/
theorem addEntities_of_carriers {reported : List PbEntity}
    (each : ∀ entity ∈ reported, reportedCarriers entity ≠ []) (carriers : List CarrierInfo)
    (manager : ConnectionManager) :
    reported.foldlM addEntity carriers manager =
      .ok (carriers ++ reported.flatMap carrierInfos)
        (manager.described (reported.map describe)) := by
  -- The carriers are collected and the entities described along the list.
  induction reported generalizing carriers manager with
  | nil => simp [described, pure, EStateM.pure]
  | cons entity later ih =>
    rw [List.foldlM_cons,
      Raising.bind_of_ok (addEntity_of_carriers (each entity List.mem_cons_self) carriers manager),
      ih fun other member => each other (List.mem_cons_of_mem entity member), described_described]
    simp

/-- The first entity without carriers raises, and those up to it have been kept. -/
theorem addEntities_of_none {reported : List PbEntity}
    (some : ∃ entity ∈ reported, reportedCarriers entity = []) (carriers : List CarrierInfo)
    (manager : ConnectionManager) :
    ∃ error kept, kept ≠ [] ∧ reported.foldlM addEntity carriers manager =
      .error error (manager.described kept) := by
  induction reported generalizing carriers manager with
  | nil => simp at some
  | cons entity later ih =>
    rw [List.foldlM_cons]
    -- The first entity without carriers raises, the descriptions before it stay.
    by_cases here : reportedCarriers entity = []
    · obtain ⟨error, raised⟩ := addEntity_of_none here carriers manager
      exact ⟨error, _, List.cons_ne_nil _ _, Raising.bind_of_error raised⟩
    · -- The entity is fine, so that one behind it raises.
      have behind : ∃ other ∈ later, reportedCarriers other = [] := by
        obtain ⟨other, member, none⟩ := some
        rcases List.mem_cons.mp member with rfl | member
        · exact absurd none here
        · exact ⟨other, member, none⟩
      obtain ⟨error, kept, -, raised⟩ :=
        ih behind (carriers ++ carrierInfos entity) (manager.described [describe entity])
      refine ⟨error, [describe entity] ++ kept, by simp, ?_⟩
      rw [Raising.bind_of_ok (addEntity_of_carriers here carriers manager), raised,
        described_described]

/-- Carriers that suggest this topology, and their connections, do not fit those there are. -/
def Refuses (manager : ConnectionManager) (incoming : Topology)
    (newConnections : AList fun _ : Path => Nat) : Prop :=
  ∃ mode, manager.topologyMode = some mode ∧ (mode ≠ incoming ∨
    mode = .proxy ∧ ∃ entry ∈ newConnections.entries,
      entry.2 ∉ manager.connections.entries.map Sigma.snd)

/-- New connections are taken over. -/
def registered (manager : ConnectionManager) (incoming : Topology)
    (newConnections : AList fun _ : Path => Nat) : ConnectionManager :=
  { manager with
    topologyMode := some (manager.topologyMode.getD incoming)
    connections := newConnections ∪ manager.connections }

/-- Connections that do not fit raise. -/
theorem register_of_refuses {manager : ConnectionManager} {carriers : List CarrierInfo}
    {newConnections : AList fun _ : Path => Nat}
    (refuses : manager.Refuses (incomingTopology carriers) newConnections) :
    ∃ error, register carriers newConnections manager = .error error manager := by
  obtain ⟨mode, known, unfit⟩ := refuses
  rw [register, Raising.get_bind]
  simp only [known]
  -- Another topology is refused first, then a second connection of a proxy.
  by_cases mixed : mode ≠ incomingTopology carriers
  · rw [if_pos mixed]
    exact ⟨_, rfl⟩
  · rw [if_neg mixed, if_pos (unfit.resolve_left mixed)]
    exact ⟨_, rfl⟩

/-- Connections that fit are taken over. -/
theorem register_of_fits {manager : ConnectionManager} {carriers : List CarrierInfo}
    {newConnections : AList fun _ : Path => Nat}
    (fits : ¬ manager.Refuses (incomingTopology carriers) newConnections) :
    register carriers newConnections manager =
      .ok () (manager.registered (incomingTopology carriers) newConnections) := by
  rw [register, Raising.get_bind]
  -- The first module sets the topology, later ones agree with it.
  cases known : manager.topologyMode with
  | none =>
    simp only [registered, known]
    rfl
  | some mode =>
    have same : ¬ mode ≠ incomingTopology carriers := fun mixed => fits ⟨mode, known, .inl mixed⟩
    have single := fun second => fits ⟨mode, known, .inr second⟩
    simp only
    rw [if_neg same, if_neg single]
    simp only [registered, known, Option.getD_some]
    rw [← known]
    rfl

/-- The items that are kept of a module. -/
def descriptions (module : List ModuleItem) : List ModuleItem :=
  (entities module).map describe ++ module.filter isWire

/-- What adding a device can come to. -/
inductive Outcome (manager : ConnectionManager) (attempt : Attempt) :
    EStateM.Result PyError ConnectionManager (List CarrierInfo) → Prop where
  /-- The device is not discovered. -/
  | undiscovered {error : PyError} (failed : attempt.discovered = .error error) :
    Outcome manager attempt (.error error manager)
  /-- Some entity has no carriers. -/
  | carrierless {module : List ModuleItem} {error : PyError} {kept : List ModuleItem}
    (found : attempt.discovered = .ok module) (listed : entities module ≠ []) (some : kept ≠ []) :
    Outcome manager attempt (.error error (manager.described kept))
  /-- The device cannot be connected to. -/
  | refused {module : List ModuleItem} {error : PyError} (found : attempt.discovered = .ok module)
    (failed : attempt.opening = .refused error) :
    Outcome manager attempt (.error error (manager.described (descriptions module)))
  /-- The data channel does not start. -/
  | unstreamed {module : List ModuleItem} {error : PyError}
    (found : attempt.discovered = .ok module) (failed : attempt.opening = .unstreamed error) :
    Outcome manager attempt
      (.error error ((manager.described (descriptions module)).started [.control]))
  /-- The connection does not fit those there are. -/
  | unfit {module : List ModuleItem} {error : PyError} (found : attempt.discovered = .ok module)
    (opened : attempt.opening = .opened) (known : manager.topologyMode ≠ none) :
    Outcome manager attempt
      (.error error ((manager.described (descriptions module)).started [.control, .data]))
  /-- The device is added. -/
  | added {module : List ModuleItem} {carriers : List CarrierInfo}
    (found : attempt.discovered = .ok module) (opened : attempt.opening = .opened)
    (each : ∀ entity ∈ entities module, reportedCarriers entity ≠ [])
    (collected : carriers = (entities module).flatMap carrierInfos)
    (fits : ¬ manager.Refuses (incomingTopology carriers) (shared manager.created carriers)) :
    Outcome manager attempt (.ok carriers
      (((manager.described (descriptions module)).started [.control, .data]).registered
        (incomingTopology carriers) (shared manager.created carriers)))

/-- Adding a device comes to one of the outcomes. -/
theorem addDevice_outcome (manager : ConnectionManager) (attempt : Attempt) :
    Outcome manager attempt (addDevice attempt manager) := by
  cases found : attempt.discovered with
  | error error =>
    have raised : discoverDevice attempt manager = .error error manager := by
      rw [discoverDevice, found]
      rfl
    rw [addDevice, Raising.bind_of_error raised]
    exact .undiscovered found
  | ok module =>
    have returned : discoverDevice attempt manager = .ok module manager := by
      rw [discoverDevice, found]
      rfl
    rw [addDevice, Raising.bind_of_ok returned]
    by_cases some : ∃ entity ∈ entities module, reportedCarriers entity = []
    · obtain ⟨error, kept, nonempty, raised⟩ := addEntities_of_none some [] manager
      rw [Raising.bind_of_error raised]
      obtain ⟨entity, member, -⟩ := some
      exact .carrierless found (List.ne_nil_of_mem member) nonempty
    · have each : ∀ entity ∈ entities module, reportedCarriers entity ≠ [] :=
        fun entity member none => some ⟨entity, member, none⟩
      rw [Raising.bind_of_ok (addEntities_of_carriers each [] manager),
        Raising.bind_of_ok (cache_forM _ _), described_described, List.nil_append]
      show Outcome manager attempt ((createConnections attempt.opening _ >>= _)
        (manager.described (descriptions module)))
      cases opening : attempt.opening with
      | refused error => exact .refused found opening
      | unstreamed error => exact .unstreamed found opening
      | opened =>
        have created : createConnections .opened ((entities module).flatMap carrierInfos)
            (manager.described (descriptions module)) =
              .ok (shared manager.created ((entities module).flatMap carrierInfos))
                ((manager.described (descriptions module)).started [.control, .data]) := rfl
        rw [Raising.bind_of_ok created]
        -- Neither the topology nor the connections were touched before they are compared.
        by_cases refuses : manager.Refuses
            (incomingTopology ((entities module).flatMap carrierInfos))
            (shared manager.created ((entities module).flatMap carrierInfos))
        · have kept : ((manager.described (descriptions module)).started
              [.control, .data]).Refuses _ _ := refuses
          obtain ⟨error, raised⟩ := register_of_refuses kept
          rw [Raising.bind_of_error raised]
          obtain ⟨mode, known, -⟩ := refuses
          exact .unfit found opening (by simp [known])
        · have kept : ¬ ((manager.described (descriptions module)).started
              [.control, .data]).Refuses _ _ := refuses
          rw [Raising.bind_of_ok (register_of_fits kept)]
          exact .added found opening each rfl refuses

/-- A connection is shared by the carriers, and by nothing else. -/
theorem lookup_shared {connection : Nat} {carriers : List CarrierInfo} {path : Path} {found : Nat} :
    (shared connection carriers).lookup path = some found ↔
      found = connection ∧ path ∈ carriers.map (·.path) := by
  -- All carriers of a module share its connection; later entries replace earlier ones.
  have general : ∀ (carriers : List CarrierInfo) (connections : AList fun _ : Path => Nat),
      (carriers.foldl (fun connections carrier => connections.insert carrier.path connection)
        connections).lookup path = if path ∈ carriers.map (·.path) then some connection
          else connections.lookup path := by
    intro carriers
    induction carriers with
    | nil => simp
    | cons carrier later ih =>
      intro connections
      rw [List.foldl_cons, ih]
      by_cases behind : path ∈ later.map (·.path)
      · simp [behind]
      · by_cases here : path = carrier.path
        · subst here
          simp [behind, AList.lookup_insert]
        · simp [behind, here, AList.lookup_insert_ne here]
  rw [shared, general]
  by_cases member : path ∈ carriers.map (·.path)
  · simp [member, eq_comm]
  · simp [member]

/-- Numbers of connections are used once. -/
def Numbered (manager : ConnectionManager) : Prop :=
  (∀ path connection, manager.connections.lookup path = some connection →
    connection < manager.created) ∧
  ∀ channel ∈ manager.running, channel.connection < manager.created

/-- The topology fits the connections. -/
structure Consistent (manager : ConnectionManager) : Prop where
  none_iff : manager.topologyMode = none ↔ manager.connections = ∅
  -- With direct connections every carrier has its own.
  direct : manager.topologyMode = some .direct → ∀ path other connection,
    manager.connections.lookup path = some connection →
    manager.connections.lookup other = some connection → path = other
  -- Behind a proxy all carriers share one.
  proxy : manager.topologyMode = some .proxy → ∀ path other connection further,
    manager.connections.lookup path = some connection →
    manager.connections.lookup other = some further → connection = further

/-- A map without entries has none for any path. -/
theorem eq_empty_iff {connections : AList fun _ : Path => Nat} :
    connections = ∅ ↔ ∀ path, connections.lookup path = none := by
  constructor
  · rintro rfl path
    exact AList.lookup_empty path
  · intro none
    apply AList.ext
    show connections.entries = []
    rw [List.eq_nil_iff_forall_not_mem]
    -- Any entry would be found under its path.
    rintro ⟨path, connection⟩ member
    have found := AList.mem_lookup_iff.mpr member
    rw [none path] at found
    cases found

/-- A raising call leaves the topology and the connections alone. -/
theorem addDevice_raised {manager after : ConnectionManager} {attempt : Attempt} {error : PyError}
    (raised : addDevice attempt manager = .error error after) :
    after.topologyMode = manager.topologyMode ∧ after.connections = manager.connections := by
  have outcome := addDevice_outcome manager attempt
  rw [raised] at outcome
  -- Connections are registered by the last step, which cannot raise after it.
  cases outcome <;> exact ⟨rfl, rfl⟩

/-- Closing forgets the connections, whether or not it raises. -/
theorem perform_closeAll (manager : ConnectionManager) (stopping : Nat → Stopping) :
    manager.perform (.closeAll stopping) = manager.closed stopping := by
  rw [perform, closeAll, Raising.get_bind,
    Raising.bind_of_ok (rfl : (set (manager.closed stopping) : ManagerM Unit) manager =
      .ok () (manager.closed stopping))]
  -- Whether the errors are raised or not, everything has been closed.
  split <;> rfl

/-- Numbers stay used once. -/
theorem Numbered.perform {manager : ConnectionManager} (numbered : manager.Numbered) (call : Call) :
    (manager.perform call).Numbered := by
  cases call with
  | closeAll stopping =>
    rw [perform_closeAll]
    refine ⟨fun path connection found => ?_, fun channel member => ?_⟩
    · cases found
    · exact numbered.2 channel (Finset.mem_filter.mp member).1
  | addDevice attempt =>
    have outcome := addDevice_outcome manager attempt
    rw [ConnectionManager.perform]
    generalize ConnectionManager.addDevice attempt manager = result at outcome
    -- A call counts no connection, or one that only its own channels and paths have.
    have counted : ∀ kinds items, ((manager.described items).started kinds).Numbered := by
      intro kinds items
      refine ⟨fun path connection found => Nat.lt_succ_of_lt (numbered.1 path connection found),
        fun channel member => ?_⟩
      rcases Finset.mem_union.mp member with old | new
      · exact Nat.lt_succ_of_lt (numbered.2 channel old)
      · obtain ⟨kind, -, rfl⟩ := List.mem_map.mp (List.mem_toFinset.mp new)
        exact Nat.lt_succ_self manager.created
    cases outcome with
    | undiscovered failed => exact numbered
    | carrierless found listed some => exact numbered
    | refused found failed => exact numbered
    | unstreamed found failed => exact counted _ _
    | unfit found opened known => exact counted _ _
    | added found opened each collected fits =>
      refine ⟨fun path connection known => ?_, (counted _ _).2⟩
      rcases AList.mem_lookup_union.mp known with new | ⟨-, old⟩
      · obtain ⟨rfl, -⟩ := lookup_shared.mp new
        exact Nat.lt_succ_self manager.created
      · exact (counted [] []).1 path connection old

/-- Only the topology and the connections have to fit each other. -/
theorem Consistent.same {manager after : ConnectionManager} (consistent : manager.Consistent)
    (mode : after.topologyMode = manager.topologyMode)
    (connections : after.connections = manager.connections) : after.Consistent := by
  -- Consistency reads nothing but the topology and the connections.
  refine ⟨?_, ?_, ?_⟩
  · rw [mode, connections]
    exact consistent.none_iff
  · rw [mode, connections]
    exact consistent.direct
  · rw [mode, connections]
    exact consistent.proxy

/-- A list with at most one element has no two different ones. -/
theorem eq_of_mem_of_length_le_one {α : Type} {elements : List α} (few : elements.length ≤ 1)
    {a b : α} (first : a ∈ elements) (second : b ∈ elements) : a = b := by
  -- Lists of no, one or more elements.
  rcases elements with _ | ⟨element, _ | ⟨further, later⟩⟩
  · cases first
  · rw [List.mem_singleton.mp first, List.mem_singleton.mp second]
  · simp at few

/-- Connections that fit are of the topology there is, and that is not a proxy. -/
theorem fits_topology {manager : ConnectionManager} (numbered : manager.Numbered)
    {carriers : List CarrierInfo}
    (fits : ¬ manager.Refuses (incomingTopology carriers) (shared manager.created carriers))
    {mode : Topology} (known : manager.topologyMode = some mode) :
    mode = incomingTopology carriers ∧ mode = .direct := by
  have same : mode = incomingTopology carriers := by
    by_contra mixed
    exact fits ⟨mode, known, .inl mixed⟩
  refine ⟨same, ?_⟩
  cases mode with
  | direct => rfl
  | proxy =>
    -- Behind a proxy there are carriers, whose connection is a new one.
    exfalso
    have many : 1 < carriers.length := by
      by_contra few
      simp [incomingTopology, few] at same
    obtain ⟨carrier, member⟩ := List.exists_mem_of_length_pos (Nat.zero_lt_of_lt many)
    refine fits ⟨.proxy, known, .inr ⟨rfl, ⟨carrier.path, manager.created⟩, ?_, ?_⟩⟩
    · exact AList.mem_lookup_iff.mp (lookup_shared.mpr ⟨rfl, List.mem_map_of_mem member⟩)
    · intro listed
      obtain ⟨⟨path, connection⟩, inside, equal⟩ := List.mem_map.mp listed
      have before := numbered.1 path connection (AList.mem_lookup_iff.mpr inside)
      simp only at equal
      omega

/-- Connections that fit keep the manager consistent, unless they are the first and there are none. -/
theorem Consistent.registered_iff {manager after : ConnectionManager}
    (consistent : manager.Consistent) (numbered : manager.Numbered) {carriers : List CarrierInfo}
    (fits : ¬ manager.Refuses (incomingTopology carriers) (shared manager.created carriers))
    (mode : after.topologyMode =
      some (manager.topologyMode.getD (incomingTopology carriers)))
    (connections : after.connections = shared manager.created carriers ∪ manager.connections) :
    after.Consistent ↔ (manager.topologyMode = none → carriers ≠ []) := by
  have taken : after.topologyMode = some (incomingTopology carriers) := by
    rw [mode]
    cases known : manager.topologyMode with
    | none => rfl
    | some mode => rw [Option.getD_some, (fits_topology numbered fits known).1]
  have found : ∀ path connection, after.connections.lookup path = some connection →
      (connection = manager.created ∧ path ∈ carriers.map (·.path)) ∨
        manager.connections.lookup path = some connection := by
    intro path connection listed
    rw [connections] at listed
    rcases AList.mem_lookup_union.mp listed with new | ⟨-, old⟩
    · exact .inl (lookup_shared.mp new)
    · exact .inr old
  constructor
  · -- Without carriers there would be a topology and no connection.
    rintro after' none rfl
    have empty : after.connections = ∅ := by
      rw [connections, consistent.none_iff.mp none]
      rfl
    rw [after'.none_iff.mpr empty] at taken
    cases taken
  · intro announced
    refine ⟨⟨fun none => ?_, fun empty => ?_⟩, fun direct path other connection first second => ?_,
      fun proxy path other connection further first second => ?_⟩
    · rw [taken] at none
      cases none
    · exfalso
      rw [eq_empty_iff] at empty
      cases known : manager.topologyMode with
      | none =>
        obtain ⟨carrier, member⟩ := List.exists_mem_of_ne_nil _ (announced known)
        have listed := empty carrier.path
        rw [connections, AList.lookup_union_left] at listed
        · rw [lookup_shared.mpr ⟨rfl, List.mem_map_of_mem member⟩] at listed
          cases listed
        · exact AList.lookup_isSome.mp
            (by rw [lookup_shared.mpr ⟨rfl, List.mem_map_of_mem member⟩]; rfl)
      | some mode =>
        -- The connections there were are still there, if not under their old numbers.
        have old : manager.connections = ∅ := by
          rw [eq_empty_iff]
          intro path
          have listed := empty path
          rw [connections, AList.lookup_eq_none, AList.mem_union] at listed
          exact AList.lookup_eq_none.mpr fun member => listed (.inr member)
        rw [consistent.none_iff.mpr old] at known
        cases known
    · -- A direct device has at most one carrier, on a connection of its own.
      have few : carriers.length ≤ 1 := by
        by_contra many
        rw [taken, incomingTopology, if_pos (by omega)] at direct
        cases direct
      rcases found path connection first with ⟨rfl, new⟩ | old
      · rcases found other manager.created second with ⟨-, also⟩ | earlier
        · exact eq_of_mem_of_length_le_one (by simpa using few) new also
        · exact absurd (numbered.1 other _ earlier) (lt_irrefl _)
      · rcases found other connection second with ⟨rfl, -⟩ | earlier
        · exact absurd (numbered.1 path _ old) (lt_irrefl _)
        · cases known : manager.topologyMode with
          | none =>
            rw [consistent.none_iff.mp known] at old
            cases old
          | some mode =>
            obtain ⟨-, rfl⟩ := fits_topology numbered fits known
            exact consistent.direct known path other connection old earlier
    · -- A proxy is the first device, so that all connections are its own.
      have none : manager.topologyMode = none := by
        cases known : manager.topologyMode with
        | none => rfl
        | some mode =>
          obtain ⟨same, rfl⟩ := fits_topology numbered fits known
          rw [taken, ← same] at proxy
          cases proxy
      have empty := consistent.none_iff.mp none
      rcases found path connection first with ⟨rfl, -⟩ | old
      · rcases found other further second with ⟨rfl, -⟩ | earlier
        · rfl
        · rw [empty] at earlier
          cases earlier
      · rw [empty] at old
        cases old

/-- A device that is added while there is none has to specify an entity. -/
def Announced (manager : ConnectionManager) : Call → Prop
  | .addDevice attempt => manager.topologyMode = none → attempt.opening = .opened →
    ∀ module, attempt.discovered = .ok module → entities module ≠ []
  | .closeAll _ => True

/-- A consistent manager stays so exactly if the call announces an entity. -/
theorem Consistent.perform_iff {manager : ConnectionManager} (consistent : manager.Consistent)
    (numbered : manager.Numbered) (call : Call) :
    (manager.perform call).Consistent ↔ manager.Announced call := by
  cases call with
  | closeAll stopping =>
    rw [perform_closeAll]
    refine ⟨fun _ => trivial, fun _ => ⟨⟨fun _ => rfl, fun _ => rfl⟩, ?_, ?_⟩⟩
    · intro mode
      cases mode
    · intro mode
      cases mode
  | addDevice attempt =>
    have outcome := addDevice_outcome manager attempt
    rw [ConnectionManager.perform]
    generalize ConnectionManager.addDevice attempt manager = result at outcome
    -- A call that raises leaves both parts alone, and announces an entity or does not get that far.
    cases outcome with
    | undiscovered failed =>
      refine ⟨fun _ _ _ module found => ?_, fun _ => consistent.same rfl rfl⟩
      rw [failed] at found
      cases found
    | carrierless found listed some =>
      refine ⟨fun _ _ _ module also => ?_, fun _ => consistent.same rfl rfl⟩
      obtain rfl := Except.ok.inj (found.symm.trans also)
      exact listed
    | refused found failed =>
      refine ⟨fun _ _ opened => ?_, fun _ => consistent.same rfl rfl⟩
      rw [failed] at opened
      cases opened
    | unstreamed found failed =>
      refine ⟨fun _ _ opened => ?_, fun _ => consistent.same rfl rfl⟩
      rw [failed] at opened
      cases opened
    | unfit found opened known =>
      exact ⟨fun _ none => absurd none known, fun _ => consistent.same rfl rfl⟩
    | added found opened each collected fits =>
      rw [consistent.registered_iff numbered fits rfl rfl, collected]
      constructor
      · intro carried none _ module also
        obtain rfl := Except.ok.inj (found.symm.trans also)
        rintro empty
        rw [empty] at carried
        exact carried none rfl
      · intro announced none
        obtain ⟨entity, member⟩ := List.exists_mem_of_ne_nil _ (announced none opened _ found)
        obtain ⟨carrier, reported⟩ := List.exists_mem_of_ne_nil _ (each entity member)
        exact List.ne_nil_of_mem (List.mem_flatMap.mpr ⟨entity, member,
          List.mem_map_of_mem reported⟩)

/-- A manager without connections is consistent. -/
theorem consistent_new : new.Consistent := by
  -- Nothing is connected, and no mode is set yet.
  refine ⟨⟨fun _ => rfl, fun _ => rfl⟩, ?_, ?_⟩
  · intro mode
    cases mode
  · intro mode
    cases mode

/-- A manager without connections has used no number. -/
theorem numbered_new : new.Numbered := by
  refine ⟨fun path connection found => ?_, fun channel member => ?_⟩
  · cases found
  · cases member

/-- A run goes on from where its first part ended. -/
theorem run_append_singleton (calls : List Call) (call : Call) :
    run (calls ++ [call]) = (run calls).perform call := by
  rw [run, List.foldl_append]
  rfl

/-- Numbers are used once in every run. -/
theorem numbered_run (calls : List Call) : (run calls).Numbered := by
  -- The last call is one step after the run of the others.
  induction calls using List.reverseRecOn with
  | nil => exact numbered_new
  | append_singleton earlier call ih =>
    rw [run_append_singleton]
    exact ih.perform call

/--
The topology of the connections is right after each call of a run, exactly if each device that is
added while there is none specifies an entity.

Calls that raise leave the topology and the connections alone in any case.
-/
theorem topology_consistent_iff (calls : List Call) :
    ((∀ earlier later, calls = earlier ++ later → (run earlier).Consistent) ∧
      ∀ earlier attempt later, calls = earlier ++ .addDevice attempt :: later →
        ∀ error after, addDevice attempt (run earlier) = .error error after →
          after.topologyMode = (run earlier).topologyMode ∧
            after.connections = (run earlier).connections) ↔
      ∀ earlier call later, calls = earlier ++ call :: later → (run earlier).Announced call := by
  constructor
  · rintro ⟨consistent, -⟩ earlier call later rfl
    have before := consistent earlier (call :: later) rfl
    have after := consistent (earlier ++ [call]) later (by simp)
    rw [run_append_singleton] at after
    exact (before.perform_iff (numbered_run earlier) call).mp after
  · intro announced
    refine ⟨?_, fun _ _ _ _ _ _ raised => addDevice_raised raised⟩
    -- The induction is on the calls that were made, from the last one back.
    intro earlier
    induction earlier using List.reverseRecOn with
    | nil => exact fun _ _ => consistent_new
    | append_singleton before call ih =>
      intro later split
      rw [List.append_assoc, List.singleton_append] at split
      rw [run_append_singleton]
      exact ((ih (call :: later) split).perform_iff (numbered_run before) call).mpr
        (announced before call later split)

/-- A device that reports nothing is taken for a direct one, and no connection is kept. -/
theorem empty_module_sets_topology :
    (run [.addDevice ⟨.ok [], .opened⟩]).topologyMode = some .direct ∧
      (run [.addDevice ⟨.ok [], .opened⟩]).connections = ∅ ∧
      ¬ (run [.addDevice ⟨.ok [], .opened⟩]).Consistent := by
  refine ⟨rfl, rfl, fun consistent => ?_⟩
  -- The topology is set although no connection is registered.
  have none := consistent.none_iff.mpr rfl
  cases none

end ConnectionManager

end Discovery

end Pybrid
