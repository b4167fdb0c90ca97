import Pybrid.Redac.EntityRepeats
import Pybrid.Redac.EntityStore

/-! Applying a module: which items are accepted, in which order, and what a second time changes. -/

namespace Pybrid

open Overwriting

namespace ModuleItem

/-- The wire that an item adds. -/
def wires (item : ModuleItem) : List WiringSpec :=
  match item.payload with
  | some (.wiringSpecification source target) =>
    (RedacDeserializer.wiringSpec source target).toOption.toList
  | _ => []

/-- Which entity an item configures, and with what; other items say nothing about any entity. -/
def entry (item : ModuleItem) : Option (Path × Wire.Payload) :=
  match item.payload with
  | some (.configuration (.dependencyInfo _)) => none
  | some (.configuration payload) => some (item.path, payload)
  | _ => none

/-- Which entity an item is about, and in which respect; the wires are about none. -/
def key (item : ModuleItem) : Option (Path × ItemKind) :=
  item.payload.bind fun payload =>
    if payload.kind = .wiringSpecification then none else some (item.path, payload.kind)

/-- Both items set how signals are connected in one entity, each in its own way. -/
def Conflicts (a b : ModuleItem) : Prop :=
  match a.kind, b.kind with
  | some kind, some kind' => a.path = b.path ∧ kind.Conflicts kind'
  | _, _ => False

instance (a b : ModuleItem) : Decidable (a.Conflicts b) := by
  unfold Conflicts
  split <;> infer_instance

variable {C : Type} (registry : List (EntityType × C)) (depth : Nat)

/-- What the item describes can be built: the entity, or a wire between two pins. -/
def Describes (item : ModuleItem) : Prop :=
  match item.payload with
  | some (.entitySpecification entity) => ∃ built,
    RedacDeserializer.deserializeSpecification registry depth entity item.path none = .ok built
  | some (.wiringSpecification source target) => ∃ spec,
    RedacDeserializer.wiringSpec source target = .ok spec
  | _ => True

/-- What the item configures is there, and its indices and values are in range. -/
def InRange (computer : WiredRedac) (item : ModuleItem) : Prop :=
  item.Describes registry depth ∧ ∀ entry, item.entry = some entry →
    ∃ entity, computer.redac.getEntity entry.1 = .ok entity ∧ entry.2.InRange entity.kind

/-- What an item configures is told by its key. -/
theorem key_of_entry {item : ModuleItem} {entry : Path × Wire.Payload}
    (configures : item.entry = some entry) : item.key = some (entry.1, entry.2.kind) ∧
      item.path = entry.1 ∧ item.kind = some entry.2.kind := by
  obtain ⟨path, _ | entity | ⟨source, target⟩ | payload | kind⟩ := item
  -- Only a configuration has an entry.
  case some.configuration =>
    cases payload <;> cases configures <;> exact ⟨rfl, rfl, rfl⟩
  all_goals cases configures

end ModuleItem

namespace RedacDeserializer

variable {C : Type} {registry : List (EntityType × C)} {depth : Nat} {computer final : WiredRedac}

/-- An item that describes the computer adds its wire. -/
theorem applySpecification_eq_ok {item : ModuleItem} :
    applySpecification registry depth computer item = .ok final ↔
      item.Describes registry depth ∧
        final = { computer with wiringSpecs := computer.wiringSpecs ++ item.wires } := by
  obtain ⟨path, payload⟩ := item
  -- An item that adds no wire leaves the computer as it is.
  have unchanged : (.ok computer : Except PyError WiredRedac) = .ok final ↔
      final = { computer with wiringSpecs := computer.wiringSpecs ++ [] } := by
    rw [List.append_nil, Except.ok.injEq]
    exact eq_comm
  cases payload with
  | none => exact unchanged.trans ⟨fun same => ⟨trivial, same⟩, And.right⟩
  | some payload =>
    cases payload with
    | entitySpecification entity =>
      constructor
      · intro ran
        obtain ⟨built, read, ended⟩ := Raising.except_bind_eq_ok.mp ran
        exact ⟨⟨built, read⟩, unchanged.mp ended⟩
      · rintro ⟨⟨built, read⟩, same⟩
        exact Raising.except_bind_eq_ok.mpr ⟨built, read, unchanged.mpr same⟩
    | wiringSpecification source target =>
      cases built : wiringSpec source target with
      | error error =>
        simp [applySpecification, ModuleItem.Describes, built, bind, Except.bind]
      | ok spec =>
        simp [applySpecification, ModuleItem.Describes, ModuleItem.wires, built, bind, Except.bind,
          pure, Except.pure, Except.toOption, eq_comm]
    | configuration payload => exact unchanged.trans ⟨fun same => ⟨trivial, same⟩, And.right⟩
    | unhandled kind => exact unchanged.trans ⟨fun same => ⟨trivial, same⟩, And.right⟩

/-- The items that describe the computer add their wires, one after the other. -/
theorem foldlM_applySpecification {items : List ModuleItem} :
    items.foldlM (applySpecification registry depth) computer = .ok final ↔
      (∀ item ∈ items, item.Describes registry depth) ∧
        final = { computer with
          wiringSpecs := computer.wiringSpecs ++ items.flatMap ModuleItem.wires } := by
  -- Each specification adds its wires behind those collected.
  induction items generalizing computer with
  | nil =>
    rw [List.foldlM_nil, Raising.except_pure_eq_ok]
    simp [eq_comm]
  | cons item later ih =>
    rw [foldlM_cons_eq_ok, List.forall_mem_cons]
    constructor
    · rintro ⟨middle, first, rest⟩
      obtain ⟨described, rfl⟩ := applySpecification_eq_ok.mp first
      obtain ⟨others, rfl⟩ := ih.mp rest
      exact ⟨⟨described, others⟩, by simp⟩
    · rintro ⟨⟨described, others⟩, rfl⟩
      refine ⟨_, applySpecification_eq_ok.mpr ⟨described, rfl⟩, ih.mpr ⟨others, by simp⟩⟩

/-- Change the state of one entity. -/
abbrev change : WiredRedac → Path × Wire.Payload → Except PyError WiredRedac :=
  Keyed.step WiredRedac.entityState WiredRedac.storeState EntityState.configure

/-- An item that configures the computer changes the state of the entity that it names. -/
theorem applyConfiguration_eq (computer : WiredRedac) (item : ModuleItem) :
    applyConfiguration computer item = match item.entry with
      | none => .ok computer
      | some entry => change computer entry := by
  obtain ⟨path, _ | entity | ⟨source, target⟩ | payload | kind⟩ := item
  -- Only a configuration has an entry.
  case some.configuration => cases payload <;> rfl
  all_goals rfl

/-- A computer is configured entity by entity. -/
theorem foldlM_applyConfiguration (computer : WiredRedac) (items : List ModuleItem) :
    items.foldlM applyConfiguration computer =
      (items.filterMap ModuleItem.entry).foldlM change computer := by
  -- An item without an entry changes nothing.
  rw [List.foldlM_filterMap]
  congr
  funext computer item
  rw [applyConfiguration_eq]
  cases item.entry <;> rfl

/-- What a tree without selections accepts is applied in the same way to the computer that has it. -/
theorem applied_of_tree {items : List Wire.Item} {redac redac' : Redac} {specs : List WiringSpec}
    (ran : redac.deserializeConfiguration items = .ok redac') :
    (items.map fun item => (⟨item.path, item.kind.map .configuration⟩ : ModuleItem)).foldlM
      applyConfiguration ⟨redac, fun _ => none, specs⟩ = .ok ⟨redac', fun _ => none, specs⟩ := by
  unfold Redac.deserializeConfiguration at ran
  induction items generalizing redac with
  | nil =>
    cases ran
    rfl
  | cons item later ih =>
    obtain ⟨middle, stepped, rest⟩ := foldlM_cons_eq_ok.mp ran
    refine foldlM_cons_eq_ok.mpr ⟨⟨middle, fun _ => none, specs⟩, ?_, ih rest⟩
    have same : ModuleItem.entry ⟨item.path, item.kind.map .configuration⟩ = item.entry := by
      obtain ⟨path, _ | payload⟩ := item
      · rfl
      · cases payload <;> rfl
    rw [Redac.deserializeItem_eq] at stepped
    rw [applyConfiguration_eq, same]
    cases configures : item.entry with
    | none =>
      rw [configures] at stepped
      cases stepped
      rfl
    | some entry =>
      rw [configures] at stepped
      obtain ⟨entity, configured, found, applied, rfl⟩ := Keyed.step_eq_ok.mp stepped
      -- The state stays one of the tree, and nothing is put beside it.
      refine Keyed.step_eq_ok.mpr ⟨.typed entity, .typed configured, ?_,
        EntityConfig.configure_eq_ok.mp applied, ?_⟩
      · refine WiredRedac.entityState_eq_ok.mpr ⟨entity, found, ?_⟩
        cases entity <;> rfl
      · simp [WiredRedac.storeState, EntityState.inTree, EntityState.beside]

/-- The wires of a computer have no part in its configuration. -/
theorem foldlM_change_wires (computer : WiredRedac) (specs : List WiringSpec)
    (entries : List (Path × Wire.Payload)) :
    entries.foldlM change { computer with wiringSpecs := specs } =
      (entries.foldlM change computer).map fun changed => { changed with wiringSpecs := specs } := by
  refine foldlM_whole (fun computer => { computer with wiringSpecs := specs })
    (fun computer entry => ?_) entries computer
  simp only [change, Keyed.step, bind, Except.bind]
  -- The states of the entities do not depend on the wires.
  have same : WiredRedac.entityState { computer with wiringSpecs := specs } entry.1 =
      computer.entityState entry.1 := rfl
  rw [same]
  cases computer.entityState entry.1 with
  | error error => rfl
  | ok state =>
    cases changed : state.configure entry.2 <;> simp only [changed] <;> rfl

/-- Configuring a computer leaves its wires as they are. -/
theorem change_wires {entries : List (Path × Wire.Payload)}
    (ran : entries.foldlM change computer = .ok final) : final.wiringSpecs = computer.wiringSpecs := by
  -- Putting the same wires in leaves the run as it is.
  have same : entries.foldlM change computer = (entries.foldlM change computer).map fun changed =>
      { changed with wiringSpecs := computer.wiringSpecs } :=
    foldlM_change_wires computer computer.wiringSpecs entries
  rw [ran] at same
  simp only [Except.map, Except.ok.injEq] at same
  have wires := congrArg WiredRedac.wiringSpecs same
  exact wires

/-- A module is applied if what it describes can be built and its configuration is accepted. -/
theorem deserialize_eq_ok {items : List ModuleItem} :
    deserialize registry depth computer items = .ok final ↔
      (∀ item ∈ items, item.Describes registry depth) ∧
        ∃ changed, (items.filterMap ModuleItem.entry).foldlM change computer = .ok changed ∧
          final = { changed with
            wiringSpecs := computer.wiringSpecs ++ items.flatMap ModuleItem.wires } := by
  -- Items of the other sort could as well be applied in both loops, where they change nothing.
  have idle : ∀ (state : WiredRedac) item, isSpecification item = false →
      applySpecification registry depth state item = .ok state := by
    rintro state ⟨path, _ | entity | ⟨source, target⟩ | payload | kind⟩ other <;>
      first | rfl | cases other
  have passed : ∀ (state : WiredRedac) item, (!isSpecification item) = false →
      applyConfiguration state item = .ok state := by
    rintro state ⟨path, _ | entity | ⟨source, target⟩ | payload | kind⟩ other <;>
      first | rfl | cases other
  have loops : deserialize registry depth computer items =
      items.foldlM (applySpecification registry depth) computer >>= fun described =>
        items.foldlM applyConfiguration described := by
    simp only [deserialize, Bool.not_eq_true, Bool.decide_eq_false,
      Raising.foldlM_filter_idle idle, Raising.foldlM_filter_idle passed]
  rw [loops, Raising.except_bind_eq_ok]
  constructor
  · rintro ⟨described, first, second⟩
    obtain ⟨all, rfl⟩ := foldlM_applySpecification.mp first
    rw [foldlM_applyConfiguration, foldlM_change_wires] at second
    obtain ⟨changed, ran, rfl⟩ := Raising.except_map_eq_ok.mp second
    exact ⟨all, changed, ran, rfl⟩
  · rintro ⟨all, changed, ran, rfl⟩
    refine ⟨_, foldlM_applySpecification.mpr ⟨all, rfl⟩, ?_⟩
    rw [foldlM_applyConfiguration, foldlM_change_wires, ran]
    rfl

/-- Payloads that are in range are accepted one after the other. -/
theorem configure_run_inRange {payloads : List Wire.Payload} {state : EntityState}
    (fits : ∀ payload ∈ payloads, payload.InRange state.kind) :
    ∃ configured, payloads.foldlM EntityState.configure state = .ok configured := by
  induction payloads generalizing state with
  | nil => exact ⟨state, rfl⟩
  | cons payload later ih =>
    obtain ⟨middle, first⟩ := EntityState.configure_inRange (fits payload List.mem_cons_self)
    -- The class of the entity stays, and with it what is in range.
    have fits' : ∀ other ∈ later, other.InRange middle.kind := fun other member =>
      EntityState.configure_kind first ▸ fits other (List.mem_cons_of_mem payload member)
    obtain ⟨configured, rest⟩ := ih fits'
    exact ⟨configured, foldlM_cons_eq_ok.mpr ⟨middle, first, rest⟩⟩

/-- A module whose items are in range is accepted. -/
theorem deserialize_accepts {items : List ModuleItem}
    (fits : ∀ item ∈ items, item.InRange registry depth computer) :
    ∃ final, deserialize registry depth computer items = .ok final := by
  have each : ∀ entry ∈ items.filterMap ModuleItem.entry, ∃ state configured,
      computer.entityState entry.1 = .ok state ∧
        (Keyed.under entry.1 (items.filterMap ModuleItem.entry)).foldlM EntityState.configure state =
          .ok configured := by
    intro entry member
    obtain ⟨item, listed, configures⟩ := List.mem_filterMap.mp member
    obtain ⟨entity, found, -⟩ := (fits item listed).2 entry configures
    have held := WiredRedac.entityState_eq_ok.mpr ⟨entity, found, rfl⟩
    refine ⟨_, _, held, (configure_run_inRange fun payload among => ?_).choose_spec⟩
    -- Every payload under the path is in range for the one entity there.
    obtain ⟨other, filtered, rfl⟩ := List.mem_map.mp among
    obtain ⟨held', same⟩ := List.mem_filter.mp filtered
    obtain ⟨item', listed', configures'⟩ := List.mem_filterMap.mp held'
    obtain ⟨entity', found', fits'⟩ := (fits item' listed').2 other configures'
    have same : other.1 = entry.1 := by simpa using same
    rw [same, found] at found'
    cases found'
    rw [WiredRedac.withSelection_kind]
    exact fits'
  obtain ⟨changed, ran⟩ := Keyed.run_accepted WiredRedac.states_laws EntityState.configure_kind each
  exact ⟨_, deserialize_eq_ok.mpr ⟨fun item member => (fits item member).1, changed, ran, rfl⟩⟩

/--
A module in which no entity is configured twice in the same respect, and in which no two items set
the connections of one entity, can be applied in any order.

If its items are in range it is accepted. The computer is then configured in the same way, and has the
same wires in some order.
-/
theorem module_order_irrelevant {items : List ModuleItem}
    (once : (items.filterMap ModuleItem.key).Nodup)
    (peace : items.Pairwise fun a b => ¬a.Conflicts b) :
    ((∀ item ∈ items, item.InRange registry depth computer) →
      ∃ final, deserialize registry depth computer items = .ok final) ∧
    ∀ final shuffled, deserialize registry depth computer items = .ok final →
      items.Perm shuffled → ∃ final', deserialize registry depth computer shuffled = .ok final' ∧
        final'.redac = final.redac ∧ final'.selections = final.selections ∧
        final.wiringSpecs.Perm final'.wiringSpecs := by
  refine ⟨deserialize_accepts, fun final shuffled accepted perm => ?_⟩
  obtain ⟨described, changed, ran, rfl⟩ := deserialize_eq_ok.mp accepted
  -- Payloads for one entity are of different kinds, which do not conflict.
  have apart : (items.filterMap ModuleItem.entry).Pairwise fun a b =>
      a.1 = b.1 → EntityState.Apart a.2 b.2 := by
    refine List.pairwise_filterMap.mpr ?_
    refine ((List.pairwise_filterMap.mp once).and peace).imp ?_
    rintro a b ⟨different, harmless⟩ entry configures entry' configures' same
    obtain ⟨key, path, kind⟩ := ModuleItem.key_of_entry configures
    obtain ⟨key', path', kind'⟩ := ModuleItem.key_of_entry configures'
    refine ⟨fun alike => different _ key _ key' (by rw [same, alike]), fun conflict => ?_⟩
    refine harmless ?_
    simp only [ModuleItem.Conflicts, kind, kind']
    exact ⟨by rw [path, path', same], conflict⟩
  have exchange := Keyed.exchange WiredRedac.states_laws EntityState.configure_kind
    EntityState.configure_exchange
  have moved := foldlM_perm exchange (fun {a b} told same => (told same.symm).symm)
    (perm.filterMap ModuleItem.entry) apart ran
  refine ⟨_, deserialize_eq_ok.mpr ⟨fun item member => described item (perm.mem_iff.mpr member),
    changed, moved, rfl⟩, rfl, rfl, ?_⟩
  exact (perm.flatMap_right _).append_left _

/-- A wire between two pins of the sample computer. -/
def sampleWire : ModuleItem :=
  ⟨[], some (.wiringSpecification ⟨"/AA", some (.namedPin "aux0")⟩ ⟨"/AA", some (.indexedPin 1)⟩)⟩

/-- A wire, a factor and an integrator of the sample computer. -/
def sampleItems : List ModuleItem :=
  [sampleWire, ⟨["AA", "0", "C"], some (.configuration (.coefConfig [⟨3, 0⟩]))⟩,
    ⟨["AA", "0", "M0"], some (.configuration (.itorConfig [⟨7, 0, 100⟩]))⟩]

/-- The sample computer without wires. -/
def sampleComputer : WiredRedac := ⟨Redac.sample (some ⟨0, 0⟩) Factor.default, fun _ => none, []⟩

/-- The items of the sample are in range. -/
theorem sampleItems_inRange : ∀ item ∈ sampleItems,
    item.InRange ([] : List (EntityType × Unit)) 1 sampleComputer := by
  intro item member
  simp only [sampleItems, List.mem_cons, List.not_mem_nil, or_false] at member
  -- A specification, then one configuration for each of two blocks.
  rcases member with rfl | rfl | rfl
  · exact ⟨⟨_, rfl⟩, fun entry configures => by cases configures⟩
  · refine ⟨trivial, fun entry configures => ?_⟩
    cases configures
    exact ⟨.cBlock ⟨Vector.replicate 32 Factor.default⟩, rfl, by
      simp [Wire.Payload.InRange, EntityConfig.kind]⟩
  · refine ⟨trivial, fun entry configures => ?_⟩
    cases configures
    exact ⟨.mBlock (.int ⟨Vector.replicate 8 ⟨0, 10000⟩, Vector.replicate 8 false⟩), rfl, by
      simp [Wire.Payload.InRange, EntityConfig.kind]⟩

/-- The wire, the factor and the integrator can be applied the other way round. -/
theorem module_order_irrelevant_sample :
    ∃ final final',
      deserialize ([] : List (EntityType × Unit)) 1 sampleComputer sampleItems = .ok final ∧
      deserialize ([] : List (EntityType × Unit)) 1 sampleComputer sampleItems.reverse = .ok final' ∧
      final'.redac = final.redac ∧ final'.selections = final.selections ∧
      final.wiringSpecs.Perm final'.wiringSpecs := by
  obtain ⟨accepts, shuffles⟩ := @module_order_irrelevant Unit [] 1 sampleComputer sampleItems
    (by decide) (by decide)
  obtain ⟨final, accepted⟩ := accepts sampleItems_inRange
  -- The reversed module is the other order.
  obtain ⟨final', same⟩ := shuffles final sampleItems.reverse accepted sampleItems.reverse_perm.symm
  exact ⟨final, final', accepted, same⟩

/-- A sum and a selection, both for the summation block of the sample computer. -/
def sampleConflict : List ModuleItem :=
  [⟨["AA", "0", "I"], some (.configuration (.sumConfig [⟨[3], 0⟩] []))⟩,
    ⟨["AA", "0", "I"], some (.configuration (.selectConfig .ground .one [⟨5, 0⟩]))⟩]

/-- The order of a sum and a selection for one summation block decides what it holds in the end. -/
theorem module_order_decides :
    (sampleConflict.filterMap ModuleItem.key).Nodup ∧
    (∀ item ∈ sampleConflict, ∃ entity, sampleComputer.redac.getEntity item.path = .ok entity) ∧
    ∃ final final',
      deserialize ([] : List (EntityType × Unit)) 1 sampleComputer sampleConflict = .ok final ∧
      deserialize ([] : List (EntityType × Unit)) 1 sampleComputer sampleConflict.reverse =
        .ok final' ∧
      final.entityState ["AA", "0", "I"] ≠ final'.entityState ["AA", "0", "I"] := by
  refine ⟨by decide, fun item member => ?_, _, _, rfl, rfl, ?_⟩
  · simp only [sampleConflict, List.mem_cons, List.not_mem_nil, or_false] at member
    rcases member with rfl | rfl <;> exact ⟨_, rfl⟩
  · -- One order leaves a selection in the block, the other one a sum.
    intro same
    cases same

/-- An item that describes a wire adds one. -/
theorem wires_ne_nil {item : ModuleItem} (described : item.Describes registry depth)
    (wiring : item.kind = some .wiringSpecification) : item.wires ≠ [] := by
  -- Only an item that specifies a wiring has that kind.
  obtain ⟨path, _ | entity | ⟨source, target⟩ | payload | kind⟩ := item
  · cases wiring
  · cases wiring
  · obtain ⟨spec, built⟩ := described
    simp [ModuleItem.wires, built, Except.toOption]
  · cases payload <;> cases wiring
  · cases wiring

/-- The configuration of a module changes nothing the second time if that holds for each entity. -/
theorem change_twice_iff {entries : List (Path × Wire.Payload)}
    (ran : entries.foldlM change computer = .ok final) :
    entries.foldlM change final = .ok final ↔ ∀ path state, computer.entityState path = .ok state →
      state.kind.Repeats (Keyed.under path entries) := by
  rw [Keyed.run_twice_iff WiredRedac.states_laws EntityState.configure_kind ran]
  constructor
  · intro again path state held
    obtain ⟨state', held', inner⟩ := Keyed.run_get WiredRedac.states_laws EntityState.configure_kind ran
      path held
    by_cases named : ∃ entry ∈ entries, entry.1 = path
    · obtain ⟨entry, member, rfl⟩ := named
      exact (EntityState.configure_twice_iff inner).mp (again entry member state' held')
    · -- Nothing is done under this path.
      rw [Keyed.under_eq_nil fun entry member same => named ⟨entry, member, same⟩]
      intro last behind found
      cases found
  · intro repeats entry member state' held'
    -- An entity that is there afterwards was there before.
    obtain ⟨state, held⟩ := Keyed.run_found WiredRedac.states_laws ran held'
    obtain ⟨other, reached, inner⟩ := Keyed.run_get WiredRedac.states_laws EntityState.configure_kind
      ran entry.1 held
    cases held'.symm.trans reached
    exact (EntityState.configure_twice_iff inner).mpr (repeats entry.1 state held)

/--
A module that was accepted changes nothing the second time exactly if it has no wires, and no
connection in it that an entity refuses once the module has replaced what the entity is to hold.
-/
theorem module_idempotent_iff {items : List ModuleItem}
    (accepted : deserialize registry depth computer items = .ok final) :
    (∃ twice, deserialize registry depth final items = .ok twice ∧ twice = final ∧
      RedacSerializer.serializeSpecificationPayloads twice =
        RedacSerializer.serializeSpecificationPayloads final) ↔
      (∀ item ∈ items, item.kind ≠ some .wiringSpecification) ∧
        ∀ path state, computer.entityState path = .ok state →
          state.kind.Repeats (Keyed.under path (items.filterMap ModuleItem.entry)) := by
  obtain ⟨described, changed, ran, rfl⟩ := deserialize_eq_ok.mp accepted
  rw [← change_twice_iff ran]
  constructor
  · rintro ⟨twice, again, rfl, -⟩
    obtain ⟨-, changed', ran', same⟩ := deserialize_eq_ok.mp again
    -- The wires that were added again are none, and no entity has changed.
    have none : items.flatMap ModuleItem.wires = [] := by
      simpa using congrArg WiredRedac.wiringSpecs same
    refine ⟨fun item member wiring => ?_, ?_⟩
    · exact wires_ne_nil (described item member) wiring (List.flatMap_eq_nil_iff.mp none item member)
    · rw [foldlM_change_wires] at ran'
      obtain ⟨last, ended, rfl⟩ := Raising.except_map_eq_ok.mp ran'
      have kept := change_wires ended
      obtain ⟨redac, selections, specs⟩ := changed
      obtain ⟨redac', selections', specs'⟩ := last
      simp only [none, List.append_nil, WiredRedac.mk.injEq] at same
      obtain ⟨rfl, rfl, -⟩ := same
      cases kept
      exact ended
  · rintro ⟨unwired, again⟩
    have none : items.flatMap ModuleItem.wires = [] := by
      refine List.flatMap_eq_nil_iff.mpr fun item member => ?_
      have other := unwired item member
      unfold ModuleItem.wires
      grind [ModuleItem.kind, ItemPayload.kind]
    have configured : (items.filterMap ModuleItem.entry).foldlM change
        { changed with wiringSpecs := computer.wiringSpecs ++ items.flatMap ModuleItem.wires } =
        .ok { changed with wiringSpecs := computer.wiringSpecs ++ items.flatMap ModuleItem.wires } := by
      rw [foldlM_change_wires, again]
      rfl
    have repeated := deserialize_eq_ok.mpr ⟨described, _, configured, rfl⟩
    simp only [none, List.append_nil] at repeated ⊢
    exact ⟨_, repeated, rfl, rfl⟩

/-- Without the wire the module of the sample changes nothing the second time. -/
theorem module_idempotent_sample :
    ∃ final, deserialize ([] : List (EntityType × Unit)) 1 sampleComputer sampleItems.tail =
        .ok final ∧
      ∃ twice, deserialize ([] : List (EntityType × Unit)) 1 final sampleItems.tail = .ok twice ∧
        twice = final ∧ RedacSerializer.serializeSpecificationPayloads twice =
          RedacSerializer.serializeSpecificationPayloads final := by
  obtain ⟨final, accepted⟩ := deserialize_accepts fun item member =>
    sampleItems_inRange item (List.mem_of_mem_tail member)
  refine ⟨final, accepted, (module_idempotent_iff accepted).mpr ⟨by decide, fun path state _ => ?_⟩⟩
  -- None of the payloads replaces the outputs of a block.
  intro last behind found
  obtain ⟨rebuilt, -, front, split⟩ := Guarded.sinceReset_eq_some found
  have listed : last ∈ (sampleItems.tail.filterMap ModuleItem.entry).map Prod.snd := by
    have member : last ∈ Keyed.under path (sampleItems.tail.filterMap ModuleItem.entry) := by
      rw [split]
      simp
    exact (List.map_subset Prod.snd (List.filter_subset_self _)) member
  have known : (sampleItems.tail.filterMap ModuleItem.entry).map Prod.snd =
      [.coefConfig [⟨3, 0⟩], .itorConfig [⟨7, 0, 100⟩]] := rfl
  rw [known] at listed
  simp only [List.mem_cons, List.not_mem_nil, or_false] at listed
  rcases listed with rfl | rfl <;> cases rebuilt

/-- A wire that is applied twice is there twice. -/
theorem module_wire_repeated :
    ∃ final twice, deserialize ([] : List (EntityType × Unit)) 1 sampleComputer [sampleWire] =
        .ok final ∧
      deserialize ([] : List (EntityType × Unit)) 1 final [sampleWire] = .ok twice ∧
      twice ≠ final := by
  refine ⟨_, _, rfl, rfl, fun same => ?_⟩
  -- The wire is listed twice.
  have lengths := congrArg (fun computer => computer.wiringSpecs.length) same
  simp [sampleComputer] at lengths

end RedacDeserializer

end Pybrid
