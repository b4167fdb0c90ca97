import Pybrid.Redac.ModuleApplication
import Pybrid.Redac.SpecificationRoundTrip

/-! What is configured on a carrier itself, sent and applied to a new carrier. -/

namespace Pybrid

open Overwriting

namespace CarrierConfig

/-- A carrier on which nothing is configured. -/
def new : CarrierConfig := ⟨[], none, none, none⟩

/-- The numbers of a channel fit the fields they are sent in. -/
def channelFits (channel : ADCChannel) : Prop := Uint32 channel.index ∧ Uint32 channel.probe

/-- Write one channel into a message, which refuses a number that does not fit its field. -/
def sendChannel (channel : ADCChannel) : Except PyError Wire.AdcChannel := do
  let idx ← toUint32 channel.index
  let probe ← toUint32 channel.probe
  return ⟨idx, channel.gain, channel.offset, probe⟩

/-- The payloads of a carrier as messages. -/
def sendConfiguration (c : CarrierConfig) : Except PyError (List (Option Wire.Payload)) := do
  -- The channels come first; what is sent besides them always fits.
  let channels ← c.adcConfig.reduceOption.mapM sendChannel
  let adc := if channels = [] then none else some (.adcConfig channels)
  return adc :: c.serializeConfiguration.tail

/-- Ports are internal or external, in any case of the letters, and lists that are given are filled. -/
structure Admissible (c : CarrierConfig) : Prop where
  ports : ∀ selected ∈ c.aclSelect, selected ≠ [] ∧
    ∀ interface ∈ selected, interface.toLower = "internal" ∨ interface.toLower = "external"
  modes : ∀ modes ∈ c.frontPanelIo, modes ≠ []

/-- The channels that are present, the ports without regard to case, and the modes are the same. -/
structure Restores (c restored : CarrierConfig) : Prop where
  channels : restored.adcConfig = c.adcConfig.reduceOption.map some
  ports : restored.aclSelect = c.aclSelect.map fun selected => selected.map String.toLower
  modes : restored.frontPanelIo = c.frontPanelIo

/-- A channel is written if its numbers fit. -/
theorem sendChannel_eq_ok {channel : ADCChannel} {sent : Wire.AdcChannel} :
    sendChannel channel = .ok sent ↔ channelFits channel ∧
      sent = ⟨channel.index, channel.gain, channel.offset, channel.probe⟩ := by
  -- A number that fits is the same in the message.
  have numbers : ∀ {value : Int}, Uint32 value → ((value.toNat : Nat) : Int) = value :=
    fun fits => Int.toNat_of_nonneg fits.1
  simp only [sendChannel, Raising.except_bind_eq_ok, Raising.except_pure_eq_ok,
    SpecificationRoundTrip.toUint32_eq_ok]
  constructor
  · rintro ⟨_, ⟨index, rfl⟩, _, ⟨probe, rfl⟩, rfl⟩
    exact ⟨⟨index, probe⟩, by rw [numbers index, numbers probe]⟩
  · rintro ⟨⟨index, probe⟩, rfl⟩
    exact ⟨_, ⟨index, rfl⟩, _, ⟨probe, rfl⟩, by rw [numbers index, numbers probe]⟩

/-- The payloads are sent if the numbers of all channels fit. -/
theorem sendConfiguration_eq_ok {c : CarrierConfig} {payloads : List (Option Wire.Payload)} :
    c.sendConfiguration = .ok payloads ↔
      (∀ channel ∈ c.adcConfig.reduceOption, channelFits channel) ∧
        payloads = c.serializeConfiguration := by
  simp only [sendConfiguration, Raising.except_bind_eq_ok, Raising.except_pure_eq_ok,
    Raising.mapM_eq_ok_iff fun _ _ _ => sendChannel_eq_ok]
  -- The channels are the only part that can be refused.
  constructor
  · rintro ⟨_, ⟨fits, rfl⟩, rfl⟩
    exact ⟨fits, rfl⟩
  · rintro ⟨fits, rfl⟩
    exact ⟨_, ⟨fits, rfl⟩, rfl⟩

/-- What the payloads of a carrier make of a new one. -/
def received (c : CarrierConfig) : CarrierConfig where
  adcConfig := c.adcConfig.reduceOption.map some
  aclSelect := c.aclSelect.map fun selected => selected.map String.toLower
  -- The modes are put beside the attribute that they were read from.
  frontPanelIo := none
  ioModes := c.frontPanelIo

/-- The payload of the channels, which is not set when there are none. -/
theorem configure_adc (c target : CarrierConfig) (unset : target.adcConfig = []) :
    [if c.adcChannels = [] then none else some (.adcConfig c.adcChannels)].reduceOption.foldlM
      EntityState.configure (.typed (.carrier target)) =
      .ok (.typed (.carrier { target with adcConfig := c.adcConfig.reduceOption.map some })) := by
  -- Without channels no payload is sent, and none was set.
  by_cases empty : c.adcConfig.reduceOption = []
  · simp only [adcChannels, empty, List.map_nil, if_true, ← unset]
    rfl
  · have filled : c.adcChannels ≠ [] := by
      simpa only [adcChannels, ne_eq, List.map_eq_nil_iff] using empty
    have kept : target.deserializeAdc c.adcChannels =
        { target with adcConfig := c.adcConfig.reduceOption.map some } := by
      simp only [deserializeAdc, adcChannels, List.map_map, Function.comp_def]
    rw [if_neg filled, ← kept]
    rfl

/-- The payload of the ports, which is sent when there are some. -/
theorem configure_ports {c : CarrierConfig} (admissible : c.Admissible) (target : CarrierConfig)
    (unset : target.aclSelect = none) :
    (match c.aclSelect with
      | some (first :: more) => [some (.portConfig ((first :: more).map aclState))]
      | _ => [] : List (Option Wire.Payload)).reduceOption.foldlM EntityState.configure (.typed (.carrier target)) =
      .ok (.typed (.carrier { target with
        aclSelect := c.aclSelect.map fun selected => selected.map String.toLower })) := by
  cases held : c.aclSelect with
  | none =>
    obtain ⟨channels, ports, panel, io⟩ := target
    cases unset
    rfl
  | some selected =>
    obtain ⟨filled, named⟩ := admissible.ports selected held
    cases selected with
    | nil => exact absurd rfl filled
    | cons first more =>
      -- A port that is not external in lower case is internal.
      have lower : ((first :: more).map aclState).map (fun state =>
          if state = .external then "external" else "internal") =
          (first :: more).map String.toLower := by
        rw [List.map_map]
        refine List.map_congr_left fun interface inside => ?_
        rcases named interface inside with lower | lower
        · simp [aclState, lower]
        · simp [aclState, lower]
      rw [Option.map_some, ← lower]
      rfl

/-- The payload of the modes, which is sent when there are some. -/
theorem configure_modes {c : CarrierConfig} (admissible : c.Admissible) (target : CarrierConfig)
    (unset : target.ioModes = none) :
    (match c.frontPanelIo with
      | some (first :: more) => [some (.frontPanelIoConfig (first :: more))]
      | _ => [] : List (Option Wire.Payload)).reduceOption.foldlM EntityState.configure (.typed (.carrier target)) =
      .ok (.typed (.carrier { target with ioModes := c.frontPanelIo })) := by
  -- Modes that are absent are not sent, and an empty list is not admitted.
  cases held : c.frontPanelIo with
  | none =>
    obtain ⟨channels, ports, panel, io⟩ := target
    cases unset
    rfl
  | some modes =>
    cases modes with
    | nil => exact absurd rfl (admissible.modes [] held)
    | cons first more => rfl

/-- The payloads of a carrier are accepted by a new one. -/
theorem configure_new {c : CarrierConfig} (admissible : c.Admissible) :
    c.serializeConfiguration.reduceOption.foldlM EntityState.configure (.typed (.carrier new)) =
      .ok (.typed (.carrier c.received)) := by
  have adc := configure_adc c new rfl
  have ports := configure_ports admissible
    { new with adcConfig := c.adcConfig.reduceOption.map some } rfl
  have modes := configure_modes admissible
    { new with
      adcConfig := c.adcConfig.reduceOption.map some
      aclSelect := c.aclSelect.map fun selected => selected.map String.toLower } rfl
  -- The three lists of payloads are applied one after the other.
  have parts := foldlM_append_eq_ok.mpr ⟨_, foldlM_append_eq_ok.mpr ⟨_, adc, ports⟩, modes⟩
  rwa [← List.reduceOption_append, ← List.reduceOption_append] at parts

/-- The items with these payloads. -/
def items (path : Path) (payloads : List (Option Wire.Payload)) : List ModuleItem :=
  payloads.map fun payload => ⟨path, payload.map ItemPayload.configuration⟩

/-- The items of a carrier configure it with the payloads that are set. -/
theorem items_entries (c : CarrierConfig) (path : Path) :
    (items path c.serializeConfiguration).filterMap ModuleItem.entry =
      c.serializeConfiguration.reduceOption.map fun payload => (path, payload) := by
  have told : ∀ payload ∈ c.serializeConfiguration, ModuleItem.entry
      ⟨path, payload.map ItemPayload.configuration⟩ = payload.map fun payload => (path, payload) := by
    intro payload member
    -- No list has more than one payload, and none is dependency information.
    rcases List.mem_append.mp member with member | member
    · rcases List.mem_cons.mp member with rfl | member
      · split <;> rfl
      · split at member
        · rw [List.mem_singleton.mp member]
          rfl
        · cases member
    · split at member
      · rw [List.mem_singleton.mp member]
        rfl
      · cases member
  rw [items, List.filterMap_map, List.reduceOption, List.map_filterMap]
  exact List.filterMap_congr told

/-- The items of a carrier describe nothing. -/
theorem items_describe {C : Type} (registry : List (EntityType × C)) (depth : Nat) {path : Path}
    {payloads : List (Option Wire.Payload)} : ∀ item ∈ items path payloads,
      item.Describes registry depth := by
  intro item member
  obtain ⟨payload, -, rfl⟩ := List.mem_map.mp member
  -- A configuration describes no entity, whatever is in it.
  cases payload <;> trivial

/-- A new carrier is restored as far as it received something, so that no modes may have been sent. -/
theorem restores_received_iff (c : CarrierConfig) : c.Restores c.received ↔ c.frontPanelIo = none :=
  ⟨fun restored => restored.modes.symm, fun none => ⟨rfl, rfl, none.symm⟩⟩

end CarrierConfig

namespace RedacDeserializer

section Carrier

variable {C : Type} {registry : List (EntityType × C)} {depth : Nat} {c : CarrierConfig}
  {computer : WiredRedac} {path : Path} {before after : List ModuleItem}

/-- Items that configure other entities, or none, do nothing under this path. -/
theorem under_foreign {items : List ModuleItem}
    (foreign : ∀ item ∈ items, item.path ≠ path ∨ item.entry = none) :
    Keyed.under path (items.filterMap ModuleItem.entry) = [] := by
  refine Keyed.under_eq_nil fun entry member => ?_
  obtain ⟨item, listed, configures⟩ := List.mem_filterMap.mp member
  -- An item of another path, or one that configures nothing.
  rcases foreign item listed with other | none
  · rw [← (ModuleItem.key_of_entry configures).2.1]
    exact other
  · rw [none] at configures
    cases configures

/-- A new carrier to which the payloads are applied, among others, holds what it has received. -/
theorem deserialize_carrier (admissible : c.Admissible)
    (fresh : computer.entityState path = .ok (.typed (.carrier .new)))
    (foreign : ∀ item ∈ before ++ after, item.path ≠ path ∨ item.entry = none)
    (accepted : ∃ other, deserialize registry depth computer (before ++ after) = .ok other) :
    ∃ restored, deserialize registry depth computer
        (before ++ CarrierConfig.items path c.serializeConfiguration ++ after) = .ok restored ∧
      restored.entityState path = .ok (.typed (.carrier c.received)) := by
  obtain ⟨other, accepted⟩ := accepted
  obtain ⟨described, changed, ran, -⟩ := deserialize_eq_ok.mp accepted
  have others := (Keyed.run_accepted_iff WiredRedac.states_laws EntityState.configure_kind).mp ⟨_, ran⟩
  have own := CarrierConfig.configure_new admissible
  let entries := (before ++ CarrierConfig.items path c.serializeConfiguration ++ after).filterMap
    ModuleItem.entry
  have split : entries = before.filterMap ModuleItem.entry ++
      c.serializeConfiguration.reduceOption.map (fun payload => (path, payload)) ++
        after.filterMap ModuleItem.entry := by
    simp only [entries, List.filterMap_append, CarrierConfig.items_entries]
  -- Under the path of the carrier there are its own payloads, and elsewhere those of others.
  have here : Keyed.under path entries = c.serializeConfiguration.reduceOption := by
    have early := under_foreign fun item member => foreign item (List.mem_append_left after member)
    have late := under_foreign fun item member => foreign item (List.mem_append_right before member)
    rw [split, Keyed.under_append, Keyed.under_append, early, late, Keyed.under_own]
    simp
  have there : ∀ {place}, place ≠ path → Keyed.under place entries =
      Keyed.under place ((before ++ after).filterMap ModuleItem.entry) := by
    intro place apart
    have none : Keyed.under place (c.serializeConfiguration.reduceOption.map
        fun payload => (path, payload)) = [] := by
      refine Keyed.under_eq_nil fun entry member => ?_
      obtain ⟨payload, -, rfl⟩ := List.mem_map.mp member
      exact apart.symm
    rw [split, Keyed.under_append, Keyed.under_append, none, List.append_nil, List.filterMap_append,
      Keyed.under_append]
  have returns : ∃ changed', entries.foldlM change computer = .ok changed' := by
    refine Keyed.run_accepted WiredRedac.states_laws EntityState.configure_kind fun entry member => ?_
    by_cases same : entry.1 = path
    · rw [same, here]
      exact ⟨_, _, fresh, own⟩
    · rw [there same]
      refine others entry ?_
      rw [split] at member
      rw [List.filterMap_append]
      rcases List.mem_append.mp member with member | member
      · rcases List.mem_append.mp member with member | member
        · exact List.mem_append_left _ member
        · obtain ⟨payload, -, rfl⟩ := List.mem_map.mp member
          exact absurd rfl same
      · exact List.mem_append_right _ member
  obtain ⟨changed', ran'⟩ := returns
  obtain ⟨state, reached, inner⟩ := Keyed.run_get WiredRedac.states_laws EntityState.configure_kind ran'
    path fresh
  rw [here, own] at inner
  cases inner
  refine ⟨_, deserialize_eq_ok.mpr ⟨fun item member => ?_, changed', ran', rfl⟩, reached⟩
  rcases List.mem_append.mp member with member | member
  · rcases List.mem_append.mp member with member | member
    · exact described item (List.mem_append_left after member)
    · exact CarrierConfig.items_describe registry depth item member
  · exact described item (List.mem_append_right before member)

/--
A carrier's configuration is restored on a new carrier exactly if it has no front panel modes and the
numbers of its channels fit the fields they are sent in.

The carrier's items come among others, which are accepted and do not configure it.
-/
theorem carrier_configuration_restored_iff (admissible : c.Admissible)
    (fresh : computer.entityState path = .ok (.typed (.carrier .new)))
    (foreign : ∀ item ∈ before ++ after, item.path ≠ path ∨ item.entry = none)
    (accepted : ∃ other, deserialize registry depth computer (before ++ after) = .ok other) :
    (∃ payloads restored config, c.sendConfiguration = .ok payloads ∧
      deserialize registry depth computer (before ++ CarrierConfig.items path payloads ++ after) =
        .ok restored ∧
      restored.entityState path = .ok (.typed (.carrier config)) ∧ c.Restores config) ↔
      c.frontPanelIo = none ∧
        ∀ channel ∈ c.adcConfig.reduceOption, CarrierConfig.channelFits channel := by
  obtain ⟨restored, ran, received⟩ := deserialize_carrier admissible fresh foreign accepted
  -- What is received is known, so that the two sides can be compared.
  constructor
  · rintro ⟨payloads, restored', config, sent, ran', found, restores⟩
    obtain ⟨fits, rfl⟩ := CarrierConfig.sendConfiguration_eq_ok.mp sent
    cases ran.symm.trans ran'
    cases received.symm.trans found
    exact ⟨c.restores_received_iff.mp restores, fits⟩
  · rintro ⟨none, fits⟩
    exact ⟨_, restored, _, CarrierConfig.sendConfiguration_eq_ok.mpr ⟨fits, rfl⟩, ran, received,
      c.restores_received_iff.mpr none⟩

end Carrier

/-- A carrier with one channel behind a gap comes back without the gap. -/
theorem carrier_configuration_restored_channel :
    ∃ payloads restored config,
      CarrierConfig.sendConfiguration ⟨[none, some ⟨3, 1, 0, 0⟩], none, none, none⟩ = .ok payloads ∧
      deserialize ([] : List (EntityType × Unit)) 1 sampleComputer
        (sampleItems ++ CarrierConfig.items ["AA"] payloads ++ []) = .ok restored ∧
      restored.entityState ["AA"] = .ok (.typed (.carrier config)) ∧
      CarrierConfig.Restores ⟨[none, some ⟨3, 1, 0, 0⟩], none, none, none⟩ config := by
  -- The other items of the module are accepted.
  have accepted := deserialize_accepts sampleItems_inRange
  refine (carrier_configuration_restored_iff ⟨by simp, by simp⟩ rfl ?_ ?_).mpr ⟨rfl, ?_⟩
  · simp [sampleItems, sampleWire, ModuleItem.entry]
  · simpa using accepted
  · simp [List.reduceOption, CarrierConfig.channelFits, Uint32]

/-- Front panel modes are not restored. -/
theorem front_panel_lost :
    CarrierConfig.Admissible ⟨[], none, some [.analogIn], none⟩ ∧
      ¬ ∃ payloads restored config,
        CarrierConfig.sendConfiguration ⟨[], none, some [.analogIn], none⟩ = .ok payloads ∧
        deserialize ([] : List (EntityType × Unit)) 1 sampleComputer
          ([] ++ CarrierConfig.items ["AA"] payloads ++ []) = .ok restored ∧
        restored.entityState ["AA"] = .ok (.typed (.carrier config)) ∧
        CarrierConfig.Restores ⟨[], none, some [.analogIn], none⟩ config := by
  have admissible : CarrierConfig.Admissible ⟨[], none, some [.analogIn], none⟩ :=
    ⟨by simp, by simp⟩
  refine ⟨admissible, ?_⟩
  rintro ⟨payloads, restored, config, sent, ran, found, restores⟩
  obtain ⟨-, rfl⟩ := CarrierConfig.sendConfiguration_eq_ok.mp sent
  obtain ⟨restored', ran', received⟩ := @deserialize_carrier Unit [] 1 _ sampleComputer ["AA"] [] []
    admissible rfl (by simp) ⟨sampleComputer, rfl⟩
  cases ran.symm.trans ran'
  cases found.symm.trans received
  -- The modes were set on the target and the front panel was not.
  cases restores.modes

end RedacDeserializer

end Pybrid
