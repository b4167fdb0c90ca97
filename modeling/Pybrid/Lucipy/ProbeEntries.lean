import Pybrid.Client.OpChunks
import Pybrid.Lucipy.Circuit
import Pybrid.Redac.CarrierRoundTrip

/-! A run over several devices: each circuit is validated alone, and the data is merged by probe. -/

namespace Pybrid

open Client Client.SampleAssembly

/-- How Python writes a list of numbers. -/
def listText (numbers : List Int) : String :=
  "[" ++ ", ".intercalate (numbers.map toString) ++ "]"

namespace AdcProbeValidator

/-- Probes that are missing, and probes that are used twice. -/
def duplicateErrors (probes : List Int) : List String :=
  (if -1 ∈ probes then ["All ADC channels require probes."] else []) ++
  if probes.dedup.length ≠ probes.length then
    ["Duplicate probe indices found: " ++ listText probes.mergeSort ++
      ". Probe indices must be globally unique across all carriers."]
  else []

/-- What is wrong with the probes of some channels, each of which has one. -/
def probeErrors (probes : List Int) : List String :=
  let distinct := probes.dedup.mergeSort
  let expected := (List.range probes.length).map Int.ofNat
  -- Gaps are reported only where nothing else is wrong.
  if duplicateErrors probes = [] ∧ distinct ≠ expected then
    ["Probe indices " ++ listText distinct ++ " are not contiguous from 0. Expected " ++
      listText expected ++ "."]
  else duplicateErrors probes

/-- Validate the channels of all carriers of one computer. -/
def validate (carriers : List (List (Option ADCChannel))) : Result :=
  let channels := carriers.flatMap List.reduceOption
  let errors := probeErrors (channels.map ADCChannel.probe)
  if channels = [] ∨ errors = [] then .success else .failure ("\n".intercalate errors)

end AdcProbeValidator

/-- The channels that the configuration of a circuit sends to its carrier; other items never fail. -/
def Circuit.setConfig (c : Circuit) : Except PyError (List Wire.AdcChannel) :=
  let result := AdcProbeValidator.validate [c.adcConfig.toList]
  if result.ok then c.adcConfig.toList.reduceOption.mapM CarrierConfig.sendChannel
  else .error ⟨.value, "Validation failed with 1 error(s):\n  - " ++ result.error⟩

/-- Devices in their order: the entity path of the carrier, and the circuit that is set for it. -/
structure LucipyWrapper where
  circuits : List (List UInt8 × Circuit)

/-- A carrier and one of the channels that are sampled on it. -/
abbrev Origin := List UInt8 × Nat

namespace LucipyWrapper

variable {V : Type}

/-- The channels for each device; the circuits are serialized one after the other. -/
def setConfigs (w : LucipyWrapper) : Except PyError (List (List UInt8 × List Wire.AdcChannel)) :=
  w.circuits.mapM fun device => do
    let channels ← device.2.setConfig
    return (device.1, channels)

/-- The channels a carrier ends up with; a configuration without channels leaves them unset. -/
def configured (configs : List (List UInt8 × List Wire.AdcChannel)) (carrier : List UInt8) :
    List Wire.AdcChannel :=
  ((configs.filter fun config => config.1 = carrier ∧ config.2 ≠ []).getLast?.map Prod.snd).getD []

/--
What devices send that were configured like this.

The firmware is not part of the source. A carrier samples the channels it was configured with, and
names the probe of each of them; nothing else is asked of it.
-/
structure Answers (configs : List (List UInt8 × List Wire.AdcChannel))
    (chunks : List (ChunkRecord (Origin × V))) : Prop where
  path : ∀ chunk ∈ chunks, ∃ entity, parsePath chunk.entityPath = .ok entity
  /-- A chunk has a row for each channel configured on its carrier, and names their probes. -/
  channels : ∀ chunk ∈ opChunks chunks,
    chunk.channelCount = (configured configs chunk.entityPath).length ∧
      chunk.probeIndices =
        some ((configured configs chunk.entityPath).map fun channel => channel.probe.toNat)
  rows : ∀ chunk ∈ opChunks chunks, chunk.samples.length = chunk.channelCount
  /-- No row of a chunk is empty: a blob without samples is not parsed. -/
  filled : ∀ chunk ∈ opChunks chunks, ∀ row ∈ chunk.samples, row ≠ []
  /-- Every carrier with channels sends a chunk. -/
  sampled : ∀ carrier, configured configs carrier ≠ [] →
    ∃ chunk ∈ opChunks chunks, chunk.entityPath = carrier
  /-- The chunks of a carrier are numbered. -/
  numbered : (opChunks chunks).Pairwise fun chunk other =>
    chunk.entityPath = other.entityPath → chunk.chunkNumber ≠ other.chunkNumber
  /-- Samples are told apart by where they come from. -/
  origin : ∀ chunk ∈ opChunks chunks, ∀ channel, ∀ sample ∈ channelSamples channel chunk,
    sample.1 = (chunk.entityPath, channel)

/-- Set the configurations, run the devices, and assemble what they have sent. -/
def run (w : LucipyWrapper) (clustersPerCarrier : List (List (List UInt8) × Nat))
    (chunks : List (ChunkRecord (Origin × V))) : Except Raised (RunData (Origin × V)) :=
  -- The circuits are validated and sent before the run.
  match w.setConfigs with
  | .error error => .error ⟨.valueError, error.message⟩
  | .ok _ =>
    match assembleRunData clustersPerCarrier chunks .empty with
    | .error raised _ => .error raised
    | .ok () run => .ok run

/-- No entry of the data mixes channels, and every channel configured on a carrier has an entry. -/
structure ProbesApart (configs : List (List UInt8 × List Wire.AdcChannel))
    (chunks : List (ChunkRecord (Origin × V))) (run : RunData (Origin × V)) : Prop where
  -- No entry mixes the samples of two channels.
  unmerged : ∀ samples, some samples ∈ run.data → ∀ sample ∈ samples, ∀ other ∈ samples,
    sample.1 = other.1
  /-- The entry of a channel holds all its samples, chunk by chunk. -/
  own : ∀ carrier, ∀ channel < (configured configs carrier).length,
    ∃ sorted : List (ChunkRecord (Origin × V)),
      sorted.Perm ((opChunks chunks).filter fun chunk => chunk.entityPath = carrier) ∧
      (sorted.Pairwise fun first second => first.chunkNumber < second.chunkNumber) ∧
      sorted.flatMap (channelSamples channel) ≠ [] ∧
      some (sorted.flatMap (channelSamples channel)) ∈ run.data

/-- The circuit probes something. -/
def Active (c : Circuit) : Prop := c.adcConfig.toList.reduceOption ≠ []

/-- The circuit passes the validation of its own, and its channels fit their messages. -/
def Accepted (c : Circuit) : Prop :=
  (AdcProbeValidator.validate [c.adcConfig.toList]).ok = true ∧
    ∀ channel ∈ c.adcConfig.toList.reduceOption, CarrierConfig.channelFits channel

/-- The channels of a circuit as they are sent. -/
def sentChannels (c : Circuit) : List Wire.AdcChannel :=
  c.adcConfig.toList.reduceOption.map fun channel =>
    ⟨channel.index, channel.gain, channel.offset, channel.probe⟩

/-- Probes without errors are distinct numbers from zero on. -/
theorem probeErrors_eq_nil {probes : List Int} (passed : AdcProbeValidator.probeErrors probes = []) :
    probes.Nodup ∧ (probes ≠ [] → 0 ∈ probes) := by
  unfold AdcProbeValidator.probeErrors at passed
  simp only at passed
  split at passed
  · simp at passed
  · rename_i told
    have distinct : probes.dedup.length = probes.length := by
      by_contra repeated
      simp [AdcProbeValidator.duplicateErrors, repeated] at passed
    have same : probes.dedup = probes := probes.dedup_sublist.eq_of_length distinct
    -- Sorted and without gaps from zero, so that zero is among them.
    have contiguous : probes.dedup.mergeSort = (List.range probes.length).map Int.ofNat := by
      by_contra gap
      exact told ⟨passed, gap⟩
    refine ⟨List.dedup_eq_self.mp same, fun some_probe => ?_⟩
    have zero : (0 : Int) ∈ (List.range probes.length).map Int.ofNat :=
      List.mem_map.mpr ⟨0, List.mem_range.mpr (List.length_pos_of_ne_nil some_probe), rfl⟩
    rw [← contiguous, same] at zero
    exact (List.mergeSort_perm _ _).mem_iff.mp zero

/-- The probes of an accepted circuit are distinct, and start from zero if there are any. -/
theorem Accepted.probes {c : Circuit} (accepted : Accepted c) :
    ((sentChannels c).map fun channel => channel.probe.toNat).Nodup ∧
      (Active c → 0 ∈ (sentChannels c).map fun channel => channel.probe.toNat) := by
  obtain ⟨valid, fits⟩ := accepted
  have sent : ((sentChannels c).map fun channel => channel.probe.toNat) =
      (c.adcConfig.toList.reduceOption.map ADCChannel.probe).map Int.toNat := by
    simp [sentChannels, Function.comp_def]
  rw [sent]
  unfold AdcProbeValidator.validate at valid
  simp only [List.flatMap_singleton] at valid
  split at valid
  · rename_i passed
    -- A circuit without channels passes as well.
    rcases passed with idle | passed
    · simp [idle, Active]
    · obtain ⟨distinct, zero⟩ := probeErrors_eq_nil passed
      refine ⟨distinct.map_on ?_, fun active => ?_⟩
      · -- No probe is negative, so none is lost in the message.
        intro probe member other member' same
        obtain ⟨channel, listed, rfl⟩ := List.mem_map.mp member
        obtain ⟨channel', listed', rfl⟩ := List.mem_map.mp member'
        have low := (fits channel listed).2.1
        have low' := (fits channel' listed').2.1
        omega
      · have found := zero (by simpa [Active] using active)
        exact List.mem_map.mpr ⟨0, found, rfl⟩
  · cases valid

/-- A circuit is configured if it is accepted. -/
theorem setConfig_eq_ok {c : Circuit} {sent : List Wire.AdcChannel} :
    c.setConfig = .ok sent ↔ Accepted c ∧ sent = sentChannels c := by
  unfold Circuit.setConfig Accepted
  simp only
  -- A circuit that is valid may still hold a number the message has no room for.
  split
  · rename_i valid
    rw [Raising.mapM_eq_ok_iff fun _ _ _ => CarrierConfig.sendChannel_eq_ok]
    simp [valid, sentChannels]
  · rename_i invalid
    simp [invalid]

/-- All devices are configured if all circuits are accepted. -/
theorem setConfigs_eq_ok {w : LucipyWrapper} {configs : List (List UInt8 × List Wire.AdcChannel)} :
    w.setConfigs = .ok configs ↔ (∀ device ∈ w.circuits, Accepted device.2) ∧
      configs = w.circuits.map fun device => (device.1, sentChannels device.2) := by
  -- Every device is configured on its own.
  have each : ∀ device ∈ w.circuits, ∀ config : List UInt8 × List Wire.AdcChannel,
      (do let channels ← device.2.setConfig; return (device.1, channels)) =
        Except.ok (ε := PyError) config ↔
      Accepted device.2 ∧ config = (device.1, sentChannels device.2) := by
    intro device _ config
    simp only [Raising.except_bind_eq_ok, Raising.except_pure_eq_ok, setConfig_eq_ok]
    constructor
    · rintro ⟨_, ⟨accepted, rfl⟩, rfl⟩
      exact ⟨accepted, rfl⟩
    · rintro ⟨accepted, rfl⟩
      exact ⟨_, ⟨accepted, rfl⟩, rfl⟩
  exact Raising.mapM_eq_ok_iff each

/-- A carrier has channels exactly when one of the circuits for it is active, and has those of one. -/
theorem configured_cases (w : LucipyWrapper) (carrier : List UInt8) :
    (configured (w.circuits.map fun device => (device.1, sentChannels device.2)) carrier = [] ∧
      ∀ device ∈ w.circuits, device.1 = carrier → ¬Active device.2) ∨
    ∃ device ∈ w.circuits, device.1 = carrier ∧ Active device.2 ∧
      configured (w.circuits.map fun device => (device.1, sentChannels device.2)) carrier =
        sentChannels device.2 := by
  have active_iff : ∀ c : Circuit, sentChannels c ≠ [] ↔ Active c := fun c => by
    simp [sentChannels, Active]
  unfold configured
  -- The last device of the name that has channels is the one that counts.
  cases last : ((w.circuits.map fun device => (device.1, sentChannels device.2)).filter
      fun config => config.1 = carrier ∧ config.2 ≠ []).getLast? with
  | none =>
    refine .inl ⟨rfl, fun device listed here active => ?_⟩
    have member : (device.1, sentChannels device.2) ∈
        (w.circuits.map fun device => (device.1, sentChannels device.2)).filter
          fun config => config.1 = carrier ∧ config.2 ≠ [] :=
      List.mem_filter.mpr ⟨List.mem_map_of_mem listed, by
        simpa [here] using (active_iff device.2).mpr active⟩
    rw [List.getLast?_eq_none_iff] at last
    rw [last] at member
    cases member
  | some config =>
    obtain ⟨listed, chosen⟩ := List.mem_filter.mp (List.mem_of_getLast? last)
    obtain ⟨device, member, rfl⟩ := List.mem_map.mp listed
    simp only [decide_eq_true_eq] at chosen
    exact .inr ⟨device, member, chosen.1, (active_iff device.2).mp chosen.2, rfl⟩

section Answers

variable {configs : List (List UInt8 × List Wire.AdcChannel)}
  {chunks : List (ChunkRecord (Origin × V))}

/-- What devices send can be assembled. -/
theorem Answers.assemblable (answers : Answers configs chunks) : Assemblable chunks where
  path := answers.path
  op := by
    refine ⟨fun chunk member => ⟨?_, answers.rows chunk member, ?_⟩,
      fun chunk member => (mem_opChunks.mp member).2, ?_⟩
    · exact answers.path chunk (mem_opChunks.mp member).1
    -- As many probes are named as the chunk has rows.
    · obtain ⟨count, probes⟩ := answers.channels chunk member
      exact ⟨_, probes, by rw [List.length_map, count]⟩
    · -- Chunks of one group come from one carrier.
      intro chunk member other member' same
      have here : chunk.entityPath = other.entityPath := congrArg Prod.fst same
      rw [(answers.channels chunk member).1, (answers.channels chunk member).2,
        (answers.channels other member').1, (answers.channels other member').2, here]
      exact ⟨rfl, rfl⟩

/-- The probes of a chunk are those of the channels configured on its carrier. -/
theorem Answers.probesOf_eq (answers : Answers configs chunks) {chunk : ChunkRecord (Origin × V)}
    (member : chunk ∈ opChunks chunks) :
    probesOf chunk =
      (configured configs chunk.entityPath).map fun channel => channel.probe.toNat := by
  rw [probesOf, (answers.channels chunk member).2, Option.getD_some]

/-- Chunks of the operation phase are in one group if they come from one carrier. -/
theorem groupKey_eq_iff {chunk other : ChunkRecord (Origin × V)} (member : chunk ∈ opChunks chunks)
    (member' : other ∈ opChunks chunks) :
    groupKey chunk = groupKey other ↔ chunk.entityPath = other.entityPath := by
  simp [groupKey, (mem_opChunks.mp member).2, (mem_opChunks.mp member').2]

/-- While one carrier samples, no probe is shared between groups. -/
theorem Answers.toSampled (answers : Answers configs chunks)
    (distinct : ∀ carrier, ((configured configs carrier).map fun channel => channel.probe.toNat).Nodup)
    (single : ∀ carrier other, configured configs carrier ≠ [] → configured configs other ≠ [] →
      carrier = other) : Sampled (opChunks chunks) := by
  obtain ⟨wellFormed, op, alike⟩ := answers.assemblable.op
  refine ⟨wellFormed, op, ?_, alike, ?_, ?_⟩
  · refine answers.numbered.imp fun apart same => apart (congrArg Prod.fst same)
  · intro chunk member
    rw [answers.probesOf_eq member]
    exact distinct chunk.entityPath
  · intro chunk member other member' different
    rw [answers.probesOf_eq member, answers.probesOf_eq member']
    -- Two different groups are two carriers, one of which has no channels.
    intro probe known known'
    refine different ((groupKey_eq_iff member member').mpr (single _ _ ?_ ?_))
    · intro none_
      simp [none_] at known
    · intro none_
      simp [none_] at known'

/-- The samples of a channel in a group come from that channel of the carrier. -/
theorem Answers.origin_of_mem (answers : Answers configs chunks)
    {chunk : ChunkRecord (Origin × V)} (member : chunk ∈ opChunks chunks) {channel : Nat}
    {sample : Origin × V}
    (listed : sample ∈ (sortChunks (groupOf (opChunks chunks) (groupKey chunk))).flatMap
      (channelSamples channel)) : sample.1 = (chunk.entityPath, channel) := by
  obtain ⟨other, inside, found⟩ := List.mem_flatMap.mp listed
  -- The chunks of the group come from the same carrier.
  obtain ⟨member', same⟩ := mem_groupOf.mp (mem_sortChunks.mp inside)
  rw [answers.origin other member' channel sample found, (groupKey_eq_iff member' member).mp same]

/-- A channel of a carrier has samples in the chunks of the carrier. -/
theorem Answers.samples_ne_nil (answers : Answers configs chunks)
    {chunk : ChunkRecord (Origin × V)} (member : chunk ∈ opChunks chunks) {channel : Nat}
    (inside : channel < chunk.channelCount) :
    (sortChunks (groupOf (opChunks chunks) (groupKey chunk))).flatMap (channelSamples channel) ≠
      [] := by
  have row : channel < chunk.samples.length := by rw [answers.rows chunk member]; exact inside
  have filled := answers.filled chunk member _ (List.getElem_mem row)
  obtain ⟨sample, first⟩ := List.exists_mem_of_ne_nil _ filled
  -- The first sample of the chunk's own row is one of the entry's.
  have found : sample ∈ channelSamples channel chunk := by
    rw [channelSamples, List.getD_eq_getElem _ _ row]
    exact first
  exact List.ne_nil_of_mem (List.mem_flatMap.mpr
    ⟨chunk, mem_sortChunks.mpr (mem_groupOf.mpr ⟨member, rfl⟩), found⟩)

/-- While no probe is shared between groups, every channel has an entry of its own. -/
theorem Answers.apart (answers : Answers configs chunks) (sampled : Sampled (opChunks chunks))
    {run : RunData (Origin × V)}
    (data : ∀ samples, some samples ∈ run.data ↔
      ∃ probe ∈ (allEntries (opChunks chunks)).map Prod.fst,
        samples = ((allEntries (opChunks chunks)).filter fun entry =>
          entry.1 = probe).flatMap Prod.snd) : ProbesApart configs chunks run := by
  -- An entry of the data is the one entry that its probe has.
  have stored : ∀ samples, some samples ∈ run.data ↔
      ∃ entry ∈ allEntries (opChunks chunks), samples = entry.2 := by
    intro samples
    rw [data]
    constructor
    · rintro ⟨probe, known, rfl⟩
      obtain ⟨entry, listed, rfl⟩ := List.mem_map.mp known
      exact ⟨entry, listed, by rw [filter_probe sampled.probes_nodup listed, List.flatMap_singleton]⟩
    · rintro ⟨entry, listed, rfl⟩
      exact ⟨entry.1, List.mem_map_of_mem listed, by
        rw [filter_probe sampled.probes_nodup listed, List.flatMap_singleton]⟩
  constructor
  · intro samples present sample listed other listed'
    obtain ⟨entry, known, rfl⟩ := (stored samples).mp present
    obtain ⟨chunk, member, channel, -, rfl⟩ := sampled.toAlike.mem_allEntries.mp known
    rw [answers.origin_of_mem member listed, answers.origin_of_mem member listed']
  · intro carrier channel inside
    obtain ⟨chunk, member, rfl⟩ := answers.sampled carrier (List.ne_nil_of_length_pos (by omega))
    have inside : channel < chunk.channelCount := by
      rw [(answers.channels chunk member).1]
      exact inside
    refine ⟨sortChunks (groupOf (opChunks chunks) (groupKey chunk)), ?_, sampled.sorted _,
      answers.samples_ne_nil member inside, ?_⟩
    · have group : groupOf (opChunks chunks) (groupKey chunk) =
          (opChunks chunks).filter fun other => other.entityPath = chunk.entityPath := by
        refine List.filter_congr fun other member' => ?_
        simp only [groupKey_eq_iff member' member]
      rw [← group]
      exact List.perm_insertionSort _ _
    · exact (stored _).mpr ⟨_, sampled.toAlike.mem_allEntries.mpr
        ⟨chunk, member, channel, inside, rfl⟩, rfl⟩

/-- A carrier that uses a probe has samples under that probe. -/
theorem Answers.entry_of_carrier (answers : Answers configs chunks) {carrier : List UInt8}
    {probe : Nat}
    (known : probe ∈ (configured configs carrier).map fun channel => channel.probe.toNat) :
    ∃ entry ∈ allEntries (opChunks chunks), entry.1 = probe ∧
      ∃ sample ∈ entry.2, sample.1.1 = carrier := by
  have some_channel : configured configs carrier ≠ [] := by
    intro none_
    simp [none_] at known
  obtain ⟨chunk, member, rfl⟩ := answers.sampled carrier some_channel
  rw [← answers.probesOf_eq member] at known
  obtain ⟨channel, inside, rfl⟩ := List.getElem_of_mem known
  refine ⟨_, answers.assemblable.op.entry_of_probe member (List.getElem?_eq_getElem inside), rfl, ?_⟩
  -- The place of the probe is a channel of the chunk.
  have counted : channel < chunk.channelCount := by
    rw [← (answers.assemblable.op.wellFormed chunk member).length_probesOf]
    exact inside
  obtain ⟨sample, listed⟩ := List.exists_mem_of_ne_nil _ (answers.samples_ne_nil member counted)
  exact ⟨sample, listed, by rw [answers.origin_of_mem member listed]⟩

/-- Two carriers that use the same probe end up in one entry. -/
theorem Answers.merged (answers : Answers configs chunks) {carrier other : List UInt8}
    (different : carrier ≠ other) {probe : Nat}
    (known : probe ∈ (configured configs carrier).map fun channel => channel.probe.toNat)
    (known' : probe ∈ (configured configs other).map fun channel => channel.probe.toNat)
    {run : RunData (Origin × V)}
    (data : ∀ samples, some samples ∈ run.data ↔
      ∃ probe ∈ (allEntries (opChunks chunks)).map Prod.fst,
        samples = ((allEntries (opChunks chunks)).filter fun entry =>
          entry.1 = probe).flatMap Prod.snd) : ¬ProbesApart configs chunks run := by
  intro apart
  obtain ⟨entry, listed, rfl, sample, inside, here⟩ := answers.entry_of_carrier known
  obtain ⟨entry', listed', same, sample', inside', there⟩ := answers.entry_of_carrier known'
  have stored := (data _).mpr ⟨entry.1, List.mem_map_of_mem listed, rfl⟩
  -- The table joins all entries that have the probe.
  have collected : ∀ added ∈ allEntries (opChunks chunks), added.1 = entry.1 →
      ∀ value ∈ added.2, value ∈ ((allEntries (opChunks chunks)).filter fun entry' =>
        entry'.1 = entry.1).flatMap Prod.snd :=
    fun added member under value found => List.mem_flatMap.mpr
      ⟨added, List.mem_filter.mpr ⟨member, by simpa using under⟩, found⟩
  have joined := apart.unmerged _ stored sample (collected entry listed rfl sample inside)
    sample' (collected entry' listed' same sample' inside')
  -- One entry would hold samples of both carriers.
  exact different (by rw [← here, ← there, joined])

end Answers

/-- A circuit that probes its first integrator. -/
def probing : Circuit where
  __ := Circuit.new 0
  adcConfig := (Circuit.new 0).adcConfig.set 0 (some ⟨0, 1, 0, 0⟩) first_lt
  nextProbeIndex := 1

/-- One sample from the carrier of such a circuit. -/
def oneSample (carrier : List UInt8) : ChunkRecord (Origin × Int) where
  chunkNumber := 0
  entityPath := carrier
  sampleType := 0
  channelCount := 1
  samples := [[((carrier, 0), 1)]]
  probeIndices := some [0]

/-- Devices that all have such a circuit. -/
def probingDevices (carriers : List (List UInt8)) : LucipyWrapper where
  circuits := carriers.map fun carrier => (carrier, probing)

/-- The circuit is accepted, and sends its one channel. -/
theorem accepted_probing :
    Accepted probing ∧ Active probing ∧ sentChannels probing = [⟨0, 1, 0, 0⟩] := by
  have channels : probing.adcConfig.toList.reduceOption = [⟨0, 1, 0, 0⟩] := rfl
  refine ⟨⟨?_, ?_⟩, by simp [Active, channels], by rw [sentChannels, channels]; rfl⟩
  · have distinct : ([0] : List Int).dedup = [0] := rfl
    -- One probe, which is zero, passes the validator.
    have valid : AdcProbeValidator.probeErrors [0] = [] := by
      simp [AdcProbeValidator.probeErrors, AdcProbeValidator.duplicateErrors, distinct]
    simp [AdcProbeValidator.validate, channels, valid, Result.success]
  · rw [channels]
    simp [CarrierConfig.channelFits, Uint32]

/-- Devices with such circuits answer with one sample each. -/
theorem answers_probing {carriers : List (List UInt8)} (nodup : carriers.Nodup)
    (paths : ∀ carrier ∈ carriers, ∃ entity, parsePath carrier = .ok entity) :
    ∀ configs, (probingDevices carriers).setConfigs = .ok configs →
      Answers configs (carriers.map oneSample) := by
  intro configs set
  obtain ⟨-, rfl⟩ := setConfigs_eq_ok.mp set
  have all : opChunks (carriers.map oneSample) = carriers.map oneSample :=
    List.filter_eq_self.mpr fun chunk member => by
      obtain ⟨carrier, -, rfl⟩ := List.mem_map.mp member
      rfl
  have one : ∀ carrier ∈ carriers, configured ((probingDevices carriers).circuits.map fun device =>
      (device.1, sentChannels device.2)) carrier = [⟨0, 1, 0, 0⟩] := by
    intro carrier listed
    rcases configured_cases (probingDevices carriers) carrier with
      ⟨-, idle⟩ | ⟨device, member, -, -, same⟩
    · exact absurd accepted_probing.2.1
        (idle (carrier, probing) (List.mem_map_of_mem listed) rfl)
    · obtain ⟨_, -, rfl⟩ := List.mem_map.mp member
      rw [same]
      exact accepted_probing.2.2
  -- Every chunk is the one of a carrier.
  have each : ∀ {holds : ChunkRecord (Origin × Int) → Prop},
      (∀ carrier ∈ carriers, holds (oneSample carrier)) →
        ∀ chunk ∈ opChunks (carriers.map oneSample), holds chunk := by
    intro holds shown chunk member
    rw [all] at member
    obtain ⟨carrier, listed, rfl⟩ := List.mem_map.mp member
    exact shown carrier listed
  constructor
  · intro chunk member
    obtain ⟨carrier, listed, rfl⟩ := List.mem_map.mp member
    exact paths carrier listed
  · refine each fun carrier listed => ?_
    rw [show (oneSample carrier).entityPath = carrier from rfl, one carrier listed]
    exact ⟨rfl, rfl⟩
  · exact each fun _ _ => rfl
  · exact each fun carrier _ => by simp [oneSample]
  · intro carrier some_channel
    rcases configured_cases (probingDevices carriers) carrier with
      ⟨none_, -⟩ | ⟨device, member, rfl, -, -⟩
    · exact absurd none_ some_channel
    · obtain ⟨carrier, listed, rfl⟩ := List.mem_map.mp member
      exact ⟨oneSample carrier, by rw [all]; exact List.mem_map_of_mem listed, rfl⟩
  · rw [all]
    refine List.pairwise_map.mpr (nodup.imp fun different same => absurd same different)
  · refine each fun carrier _ channel sample listed => ?_
    cases channel with
    | zero =>
      have first : sample = ((carrier, 0), 1) := by
        simpa [channelSamples, oneSample] using listed
      rw [first]
      rfl
    | succ channel => simp [channelSamples, oneSample] at listed

/--
When the probes of different devices are not merged.

A run is rejected, or each channel of each carrier gets its own entry in the data, exactly when a
circuit is not accepted or no two carriers have active circuits. Circuits are validated one by one,
each counting its probes from zero, and the data is merged by probe alone.
-/
theorem probes_apart_iff (w : LucipyWrapper) (clustersPerCarrier : List (List (List UInt8) × Nat))
    (chunks : List (ChunkRecord (Origin × V)))
    (answered : ∀ configs, w.setConfigs = .ok configs → Answers configs chunks) :
    ((∃ raised, w.run clustersPerCarrier chunks = .error raised) ∨
      ∃ configs final, w.setConfigs = .ok configs ∧
        w.run clustersPerCarrier chunks = .ok final ∧ ProbesApart configs chunks final) ↔
    (∃ device ∈ w.circuits, ¬Accepted device.2) ∨
      ∀ device ∈ w.circuits, ∀ other ∈ w.circuits, Active device.2 → Active other.2 →
        device.1 = other.1 := by
  by_cases accepted : ∀ device ∈ w.circuits, Accepted device.2
  · have set := setConfigs_eq_ok.mpr ⟨accepted, rfl⟩
    have answers := answered _ set
    obtain ⟨final, ran, data⟩ := answers.assemblable.assembled_empty clustersPerCarrier
    have returns : w.run clustersPerCarrier chunks = .ok final := by
      simp only [run, set, ran]
    have not_rejected : ¬∃ device ∈ w.circuits, ¬Accepted device.2 := by
      simpa using accepted
    -- What a carrier is configured with are the channels of an accepted circuit.
    have distinct : ∀ carrier, ((configured (w.circuits.map fun device =>
        (device.1, sentChannels device.2)) carrier).map fun channel =>
          channel.probe.toNat).Nodup := by
      intro carrier
      rcases configured_cases w carrier with ⟨none_, -⟩ | ⟨device, listed, -, -, same⟩
      · simp [none_]
      · rw [same]
        exact (accepted device listed).probes.1
    have zero : ∀ device ∈ w.circuits, Active device.2 →
        0 ∈ (configured (w.circuits.map fun device => (device.1, sentChannels device.2))
          device.1).map fun channel => channel.probe.toNat := by
      intro device listed active
      rcases configured_cases w device.1 with ⟨-, idle⟩ | ⟨other, listed', -, active', same⟩
      · exact absurd active (idle device listed rfl)
      · rw [same]
        exact (accepted other listed').probes.2 active'
    constructor
    · rintro (⟨raised, rejected⟩ | ⟨configs, other, set', returns', apart⟩)
      · rw [returns] at rejected
        cases rejected
      · rw [set, Except.ok.injEq] at set'
        rw [returns, Except.ok.injEq] at returns'
        subst set' returns'
        refine .inr fun device listed other listed' active active' => ?_
        by_contra different
        exact answers.merged different (zero device listed active) (zero other listed' active')
          data apart
    · rintro (rejected | single)
      · exact absurd rejected not_rejected
      · refine .inr ⟨_, final, set, returns, answers.apart (answers.toSampled distinct ?_) data⟩
        intro carrier other some_channel some_channel'
        rcases configured_cases w carrier with ⟨none_, -⟩ | ⟨device, listed, rfl, active, -⟩
        · exact absurd none_ some_channel
        · rcases configured_cases w other with ⟨none_, -⟩ | ⟨device', listed', rfl, active', -⟩
          · exact absurd none_ some_channel'
          · exact single device listed device' listed' active active'
  · -- A circuit that is not accepted ends the run before anything is configured.
    have rejected : ∃ raised, w.run clustersPerCarrier chunks = .error raised := by
      cases set : w.setConfigs with
      | ok configs => exact absurd (setConfigs_eq_ok.mp set).1 accepted
      | error error => exact ⟨⟨.valueError, error.message⟩, by simp only [run, set]⟩
    have refused : ∃ device ∈ w.circuits, ¬Accepted device.2 := by simpa using accepted
    exact ⟨fun _ => .inl refused, fun _ => .inl rejected⟩

/-- One probing device has its samples to itself. -/
theorem probes_apart_one_device :
    (∃ raised, (probingDevices [[47, 97]]).run [] [oneSample [47, 97]] = .error raised) ∨
      ∃ configs final, (probingDevices [[47, 97]]).setConfigs = .ok configs ∧
        (probingDevices [[47, 97]]).run [] [oneSample [47, 97]] = .ok final ∧
        ProbesApart configs [oneSample [47, 97]] final := by
  -- There is no second device whose probe could clash.
  refine (probes_apart_iff (probingDevices [[47, 97]]) [] [oneSample [47, 97]]
    (answers_probing (by simp) ?_)).mpr (.inr ?_)
  · simp only [List.mem_singleton, forall_eq]
    exact ⟨_, rfl⟩
  · simp [probingDevices]

/-- Two probing devices pass validation, and their samples end up in one entry. -/
theorem two_devices_merged :
    (∀ configs, (probingDevices [[47, 97], [47, 98]]).setConfigs = .ok configs →
      Answers configs [oneSample [47, 97], oneSample [47, 98]]) ∧
    (∃ final, (probingDevices [[47, 97], [47, 98]]).run []
        [oneSample [47, 97], oneSample [47, 98]] = .ok final ∧
      final.data = [some [(([47, 97], 0), 1), (([47, 98], 0), 1)]]) ∧
    ¬((∃ raised, (probingDevices [[47, 97], [47, 98]]).run []
        [oneSample [47, 97], oneSample [47, 98]] = .error raised) ∨
      ∃ configs final, (probingDevices [[47, 97], [47, 98]]).setConfigs = .ok configs ∧
        (probingDevices [[47, 97], [47, 98]]).run []
          [oneSample [47, 97], oneSample [47, 98]] = .ok final ∧
        ProbesApart configs [oneSample [47, 97], oneSample [47, 98]] final) := by
  have set : (probingDevices [[47, 97], [47, 98]]).setConfigs =
      .ok [([47, 97], [⟨0, 1, 0, 0⟩]), ([47, 98], [⟨0, 1, 0, 0⟩])] := by
    refine setConfigs_eq_ok.mpr ⟨?_, ?_⟩
    · simp [probingDevices, accepted_probing.1]
    · simp [probingDevices, accepted_probing.2.2]
  have ran : (probingDevices [[47, 97], [47, 98]]).run []
      [oneSample [47, 97], oneSample [47, 98]] =
        .ok ⟨[some [(([47, 97], 0), 1), (([47, 98], 0), 1)]], []⟩ := by
    simp only [run, set]
    rfl
  refine ⟨answers_probing (by decide) ?_, ⟨_, ran, rfl⟩, ?_⟩
  · intro carrier listed
    simp only [List.mem_cons, List.not_mem_nil, or_false] at listed
    rcases listed with rfl | rfl
    · exact ⟨_, rfl⟩
    · exact ⟨_, rfl⟩
  · rintro (⟨raised, rejected⟩ | ⟨configs, final, _, returned, apart⟩)
    · rw [ran] at rejected
      cases rejected
    · rw [ran, Except.ok.injEq] at returned
      subst returned
      -- The first sample comes from one carrier, the second one from the other.
      have same := apart.unmerged _ (List.mem_singleton.mpr rfl) (([47, 97], 0), 1) (by simp)
        (([47, 98], 0), 1) (by simp)
      simp at same

end LucipyWrapper

end Pybrid
