import Pybrid.Library.Rows
import Pybrid.Client.BlobCodec
import Pybrid.Client.OpChunks

/-! The run data messages of the mock device, and what the native channel and the client make of each. -/

namespace Pybrid.Mock

open SampleDecoding Client SampleAssembly

/-- The stage at which the mock device injects an error. -/
inductive ErrorStage where
  | none
  | atConfigure
  | atStartRun
  | atExtract
  | duringRun
  | dropTakeoffState
  | dropDoneState
  | fewerSamples
  deriving DecidableEq, Repr

/-- An array of samples with one row per channel; each sample is given by the bits of its float. -/
structure SampleArray where
  numChannels : Nat
  numSamples : Nat
  value : Nat → Nat → UInt32

namespace SampleArray

/-- The columns from `start` up to `stop`. -/
def columns (samples : SampleArray) (start stop : Nat) : SampleArray where
  numChannels := samples.numChannels
  numSamples := stop - start
  value channel sample := samples.value channel (start + sample)

/-- The entries in column-major order. -/
def flatten (samples : SampleArray) : List UInt32 :=
  (List.range samples.numSamples).flatMap fun sample =>
    (List.range samples.numChannels).map fun channel => samples.value channel sample

end SampleArray

/-- The bits of the gain and of the offset each channel is sent with: one and zero. -/
def unitGain : UInt64 := 0x3FF0000000000000

@[inherit_doc unitGain]
def zeroOffset : UInt64 := 0

/-- The channel list of a message: every channel has its own number as its probe. -/
def adcChannels (numChannels : Nat) : List AdcChannel :=
  (List.range numChannels).map fun i => ⟨i.toUInt32, unitGain, zeroOffset, i.toUInt32⟩

/-- The data of a message with these samples. -/
def daqData (samples : SampleArray) : DaqData where
  data := samples.flatten.flatMap wordBytes
  type := .float 32
  channels := adcChannels samples.numChannels
  sampleCount := samples.numSamples.toUInt32
  channelStride := samples.numChannels.toUInt32

/-- The entity path of a carrier. -/
def carrierPath (carrierMac : String) : String := "/" ++ carrierMac

/-- The number of samples a message holds at most. -/
def chunkSize : Nat := 100

/-- The samples of a chunk. -/
def chunkSamples (samples : SampleArray) (chunk : Nat) : SampleArray :=
  samples.columns (chunk * chunkSize) (min (chunk * chunkSize + chunkSize) samples.numSamples)

/-- The message with one chunk of a carrier's samples. -/
def chunkMessage (carrierMac : String) (samples : SampleArray) (chunk : Nat) : RunDataMessage where
  chunk := some chunk.toUInt32
  entity := some (utf8 (carrierPath carrierMac))
  data := some (daqData (chunkSamples samples chunk))

/-- How many of a carrier's samples are sent: half of them, if fewer are to be sent. -/
def actualSamples (stage : ErrorStage) (numSamples : Nat) : Nat :=
  if stage = .fewerSamples then numSamples / 2 else numSamples

/-- The samples that are sent. -/
def sentSamples (stage : ErrorStage) (samples : SampleArray) : SampleArray :=
  samples.columns 0 (actualSamples stage samples.numSamples)

/-- The run data messages of a carrier, one for each chunk. -/
def sendCarrierSamples (stage : ErrorStage) (carrierMac : String) (samples : SampleArray) :
    List RunDataMessage :=
  let actual := sentSamples stage samples
  (List.range (Rows.pieces chunkSize actual.numSamples)).map (chunkMessage carrierMac actual)

/-- The run data messages of a run, carrier by carrier. -/
def sendSamples (stage : ErrorStage) (carriers : List (String × SampleArray)) :
    List RunDataMessage :=
  carriers.flatMap fun carrier => sendCarrierSamples stage carrier.1 carrier.2

/-- What the client gets for a sample: the native channel has read, scaled and shifted it. -/
def heard (scale : SampleScale) (bits : UInt32) : UInt64 :=
  scale .float (wordBytes bits) unitGain zeroOffset

/-- What the native channel makes of some samples. -/
def decodedSamples (scale : SampleScale) (samples : SampleArray) : DecodedDaqResult where
  samples := (List.range samples.numSamples).flatMap fun sample =>
    (List.range samples.numChannels).map fun channel => heard scale (samples.value channel sample)
  channelCount := samples.numChannels
  probeIndices := (List.range samples.numChannels).map fun i => i.toUInt32

/-- Numbers of channels and samples that a message can announce. -/
structure Announceable (samples : SampleArray) : Prop where
  channels : 0 < samples.numChannels ∧ samples.numChannels < 2 ^ 32
  samples : 0 < samples.numSamples ∧ samples.numSamples ≤ chunkSize

/-- The elements of a message stand where the decoder looks for them. -/
theorem elementAt_flatten (samples : SampleArray) {sample channel : Nat}
    (counted : sample < samples.numSamples) (listed : channel < samples.numChannels) :
    elementAt .float (samples.flatten.flatMap wordBytes) (sample * samples.numChannels + channel) =
      wordBytes (samples.value channel sample) := by
  -- The samples are laid out row by row, one row for each time step.
  have found : samples.flatten[sample * samples.numChannels + channel]? =
      some (samples.value channel sample) :=
    Rows.getElem?_grid (fun sample channel => samples.value channel sample) counted listed
  obtain ⟨inside, here⟩ := List.getElem?_eq_some_iff.mp found
  rw [elementAt, SampleReader.elementSize, Rows.take_drop_flatMap length_wordBytes _ inside, here]

/-- The native channel decodes every message of the mock device, sample by sample. -/
theorem decode_daqData (scale : SampleScale) {samples : SampleArray}
    (announceable : Announceable samples) :
    decodeDaqData scale (daqData samples) = .ok (decodedSamples scale samples) := by
  obtain ⟨⟨channels, few⟩, some_, short⟩ := announceable
  have stride : (daqData samples).channelStride.toNat = samples.numChannels :=
    BlobCodec.toNat_toUInt32 few
  have count : (daqData samples).sampleCount.toNat = samples.numSamples :=
    BlobCodec.toNat_toUInt32 (by simp only [chunkSize] at short; omega)
  have flat : samples.flatten.length = samples.numSamples * samples.numChannels := by
    have row : ∀ sample, ((List.range samples.numChannels).map fun channel =>
        samples.value channel sample).length = samples.numChannels := by simp
    rw [SampleArray.flatten, Rows.length_flatMap row, List.length_range]
  have bytes : (daqData samples).data.length = samples.numChannels * samples.numSamples * 4 := by
    show (samples.flatten.flatMap wordBytes).length = _
    rw [Rows.length_flatMap length_wordBytes, flat, Nat.mul_comm samples.numSamples]
  have values : 0 < samples.numChannels * samples.numSamples := Nat.mul_pos channels some_
  have nonempty : ¬(samples.numChannels * samples.numSamples = 0 ∨ (daqData samples).data = []) := by
    rintro (none_ | none_)
    · omega
    · rw [none_, List.length_nil] at bytes
      omega
  have enough : ¬(daqData samples).data.length <
      samples.numChannels * samples.numSamples * SampleReader.float.elementSize % 2 ^ 64 := by
    rw [bytes, Nat.not_lt]
    exact Nat.mod_le _ _
  have listed : (daqData samples).channels ≠ [] := by
    show adcChannels samples.numChannels ≠ []
    simp only [adcChannels, ne_eq, List.map_eq_nil_iff, List.range_eq_nil]
    omega
  have float : getDataTypeInfo (daqData samples).type = some .float := rfl
  unfold decodeDaqData
  simp only [stride, count, if_neg nonempty, float, if_neg enough, if_neg listed]
  -- What is left is the result, whose samples are read from the flattened array.
  refine congrArg Except.ok ?_
  have reads : ∀ sample < samples.numSamples,
      ((daqData samples).channels.zipIdx.map fun channel =>
        scale .float (elementAt .float (daqData samples).data
          (sample * samples.numChannels + channel.2)) channel.1.gain channel.1.offset) =
        (List.range samples.numChannels).map fun channel =>
          heard scale (samples.value channel sample) := by
    intro sample counted
    refine List.ext_getElem (by simp [daqData, adcChannels]) fun channel _ inside => ?_
    have listed : channel < samples.numChannels := by simpa using inside
    simp only [daqData, adcChannels, List.getElem_map, List.getElem_zipIdx, List.getElem_range,
      Nat.zero_add, elementAt_flatten samples counted listed, heard]
  simp only [decodedSamples, DecodedDaqResult.mk.injEq]
  refine ⟨?_, by simp [daqData, adcChannels], by simp [daqData, adcChannels]⟩
  exact List.flatMap_congr fun sample member => reads sample (List.mem_range.mp member)

/-- The blob of a chunk of samples. -/
def chunkBlob (scale : SampleScale) (sampleType : UInt32) (carrierMac : String)
    (samples : SampleArray) (chunk : Nat) : List UInt8 :=
  buildBlob (utf8 (carrierPath carrierMac)) (decodedSamples scale samples) sampleType chunk.toUInt32

/-- The record the client makes of such a blob. -/
def chunkRecord (scale : SampleScale) (sampleType : UInt32) (carrierMac : String)
    (samples : SampleArray) (chunk : Nat) : ChunkRecord UInt64 where
  chunkNumber := chunk
  entityPath := utf8 (carrierPath carrierMac)
  sampleType := sampleType.toNat
  channelCount := samples.numChannels
  -- One row for each channel, as the blob is parsed.
  samples := (List.range samples.numChannels).map fun channel =>
    (List.range samples.numSamples).map fun sample => heard scale (samples.value channel sample)
  probeIndices := some (List.range samples.numChannels)

/-- The blob of a chunk is at most as long as that of a full one. -/
theorem length_chunkBlob (scale : SampleScale) (sampleType : UInt32) (carrierMac : String)
    (samples : SampleArray) (chunk : Nat) :
    (chunkBlob scale sampleType carrierMac samples chunk).length =
      alignUpToDouble (headerSize + (utf8 (carrierPath carrierMac)).length +
        samples.numChannels * 4) + samples.numSamples * samples.numChannels * 8 := by
  -- Every time step has one sample for each channel.
  have samples_ : (decodedSamples scale samples).samples.length =
      samples.numSamples * samples.numChannels := by
    have row : ∀ sample, ((List.range samples.numChannels).map fun channel =>
        heard scale (samples.value channel sample)).length = samples.numChannels := by simp
    rw [decodedSamples, Rows.length_flatMap row, List.length_range]
  rw [chunkBlob, length_buildBlob _ _ _ (by simp [decodedSamples]), samples_]
  rfl

/-- The client buffers exactly the record of the chunk. -/
theorem buffer_chunkBlob (scale : SampleScale) (sampleType : UInt32) {carrierMac : String}
    {samples : SampleArray} (announceable : Announceable samples)
    (short : (utf8 (carrierPath carrierMac)).length < 2 ^ 32) {chunk : Nat} (numbered : chunk < 2 ^ 32)
    (buffer : List (String × ChunkRecord UInt64)) :
    bufferSampleBlob (chunkBlob scale sampleType carrierMac samples chunk) buffer =
      buffer ++ [(carrierPath carrierMac, chunkRecord scale sampleType carrierMac samples chunk)] := by
  obtain ⟨⟨channels, few⟩, some_, small⟩ := announceable
  let result := decodedSamples scale samples
  have count : samples.numChannels.toUInt32.toNat = samples.numChannels :=
    BlobCodec.toNat_toUInt32 few
  have number : chunk.toUInt32.toNat = chunk := BlobCodec.toNat_toUInt32 numbered
  have sampled : result.samples.length = samples.numChannels.toUInt32.toNat * samples.numSamples := by
    have row : ∀ sample, ((List.range samples.numChannels).map fun channel =>
        heard scale (samples.value channel sample)).length = samples.numChannels := by simp
    show (decodedSamples scale samples).samples.length = _
    rw [decodedSamples, Rows.length_flatMap row, List.length_range, count, Nat.mul_comm]
  have probed : result.probeIndices = [] ∨
      result.probeIndices.length = samples.numChannels.toUInt32.toNat := by
    right
    simp [result, decodedSamples, count]
  have built : DecodedSampleBlob.build (carrierPath carrierMac) result.samples
      samples.numChannels.toUInt32 sampleType chunk.toUInt32 result.probeIndices =
        chunkBlob scale sampleType carrierMac samples chunk := by
    rw [DecodedSampleBlob.build, count]
    rfl
  obtain ⟨words, announced⟩ : ∃ words, BlobCodec.Announced
      (DecodedSampleBlob.build (carrierPath carrierMac) result.samples
        samples.numChannels.toUInt32 sampleType chunk.toUInt32 result.probeIndices)
      words (carrierPath carrierMac) result.samples samples.numChannels.toUInt32 sampleType
      chunk.toUInt32 result.probeIndices samples.numSamples :=
    BlobCodec.announced_build (by rw [count]; exact channels) sampled probed short
      (by simp only [chunkSize] at small; omega)
  rw [built] at announced
  -- From here on only the announcements count, not the layout.
  obtain ⟨blob, laid⟩ : ∃ blob, chunkBlob scale sampleType carrierMac samples chunk = blob := ⟨_, rfl⟩
  rw [laid] at announced ⊢
  unfold bufferSampleBlob
  rw [announced.parsed (by rw [count]; exact channels) sampled some_]
  simp only [announced.pathAt, BlobCodec.decodeUtf8_utf8]
  refine congrArg (fun record => buffer ++ [(carrierPath carrierMac, record)]) ?_
  -- The words of the header and what is read by them are the fields of the record.
  have listed : result.probeIndices ≠ [] := by
    simp only [result, decodedSamples, ne_eq, List.map_eq_nil_iff, List.range_eq_nil]
    omega
  have indices : result.probeIndices.map UInt32.toNat = List.range samples.numChannels := by
    simp only [result, decodedSamples, List.map_map]
    refine (List.map_congr_left fun i inside => ?_).trans (List.map_id _)
    exact BlobCodec.toNat_toUInt32 ((List.mem_range.mp inside).trans few)
  have probes := announced.probeIndices probed
  rw [if_neg listed, indices] at probes
  have rows : ((List.range (words 2)).map fun channel => (List.range (words 1)).map fun sample =>
      (readLittleEndian blob (BlobCodec.samplesPlace words + (sample * words 2 + channel) * 8) 8).toUInt64) =
        (List.range samples.numChannels).map fun channel =>
          (List.range samples.numSamples).map fun sample =>
            heard scale (samples.value channel sample) := by
    rw [announced.channelWord, count, announced.countWord]
    refine List.map_congr_left fun channel listed => List.map_congr_left fun sample counted => ?_
    have found : result.samples[sample * samples.numChannels + channel]? =
        some (heard scale (samples.value channel sample)) :=
      Rows.getElem?_grid (fun sample channel => heard scale (samples.value channel sample))
        (List.mem_range.mp counted) (List.mem_range.mp listed)
    obtain ⟨inside, here⟩ := List.getElem?_eq_some_iff.mp found
    rw [Nat.mul_comm _ 8, announced.sampleAt inside, here]
    simp
  rw [probes, rows, announced.typeWord, announced.chunkWord, announced.channelWord, number, count]
  rfl

/-- The chunks of an array can be announced, and their numbers can as well. -/
theorem announceable_chunk {samples : SampleArray} {chunk : Nat}
    (channels : 0 < samples.numChannels ∧ samples.numChannels < 2 ^ 32)
    (counted : chunk < Rows.pieces chunkSize samples.numSamples) :
    Announceable (chunkSamples samples chunk) := by
  -- No piece is empty, and none is longer than a chunk.
  have piece := Rows.length_piece (by decide) counted
  simp only [Rows.piece, List.length_range'] at piece
  exact ⟨channels, piece.1, piece.2.1⟩

/-- A message is decoded, and its blob is queued if it fits a slot. -/
theorem deliver_message (scale : SampleScale) (sampleType : UInt32) {carrierMac : String}
    {samples : SampleArray} {chunk : Nat} (announceable : Announceable samples)
    (fits : (chunkBlob scale sampleType carrierMac samples chunk).length ≤ sampleSlotSize)
    (sink : SampleSink) :
    deliver scale sampleType
        ⟨some chunk.toUInt32, some (utf8 (carrierPath carrierMac)), some (daqData samples)⟩ sink =
      .ok { sink with queue := sink.queue ++ [chunkBlob scale sampleType carrierMac samples chunk] } := by
  -- The blob fits into a slot.
  have placed : put sampleSlotSize sink.queue (chunkBlob scale sampleType carrierMac samples chunk) =
      .ok (sink.queue ++ [chunkBlob scale sampleType carrierMac samples chunk]) := by
    rw [put, if_neg (Nat.not_lt.mpr fits)]
  rw [chunkBlob] at placed ⊢
  simp only [deliver, decode_daqData scale announceable, bind, Except.bind, Option.getD_some, placed]
  rfl

end Pybrid.Mock
