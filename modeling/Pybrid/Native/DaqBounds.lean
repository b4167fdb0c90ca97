import Pybrid.Native.SampleDecoding

/-! Which elements of a chunk the decoder reads, and when all of them lie within its data. -/

namespace Pybrid

namespace SampleDecoding

/--
The elements that decoding a chunk reads, in order, each with the channel it is read for.

The index is a `size_t` made of two 32-bit factors and a 32-bit channel, so it does not wrap.
-/
def sampleReads (daq : DaqData) : List (Nat × AdcChannel) :=
  -- A chunk that is passed over is not read at all.
  if Decodes daq then
    (List.range daq.sampleCount.toNat).flatMap fun sample =>
      daq.channels.zipIdx.map fun channel =>
        (sample * daq.channelStride.toNat + channel.2, channel.1)
  else []

/-- Every element read lies within the data as a whole. -/
def ReadsWithinData (daq : DaqData) : Prop :=
  ∀ reader ∈ getDataTypeInfo daq.type, ∀ read ∈ sampleReads daq,
    (read.1 + 1) * reader.elementSize ≤ daq.data.length

instance (daq : DaqData) : Decidable (ReadsWithinData daq) :=
  inferInstanceAs (Decidable (∀ reader ∈ _, _))

/-- The data reaches to the last listed channel of the last sample. -/
def LastSampleHeld (daq : DaqData) : Prop :=
  ∀ reader ∈ getDataTypeInfo daq.type,
    ((daq.sampleCount.toNat - 1) * daq.channelStride.toNat + daq.channels.length) *
      reader.elementSize ≤ daq.data.length

instance (daq : DaqData) : Decidable (LastSampleHeld daq) :=
  inferInstanceAs (Decidable (∀ reader ∈ _, _))

/-- An element is read for a sample of the chunk and the place of a channel in the list. -/
theorem mem_sampleReads {daq : DaqData} {index : Nat} {channel : AdcChannel} :
    (index, channel) ∈ sampleReads daq ↔
      Decodes daq ∧ ∃ sample < daq.sampleCount.toNat, ∃ place,
        daq.channels[place]? = some channel ∧ index = sample * daq.channelStride.toNat + place := by
  unfold sampleReads
  split
  · rename_i decodable
    simp only [List.mem_flatMap, List.mem_range, List.mem_map, Prod.mk.injEq, Prod.exists,
      List.mem_zipIdx_iff_getElem?, decodable, true_and]
    -- A read is a sample and the place of a channel in the list.
    constructor
    · rintro ⟨sample, counted, listed, place, found, spelled, rfl⟩
      exact ⟨sample, counted, place, by simpa using found, spelled.symm⟩
    · rintro ⟨sample, counted, place, found, spelled⟩
      exact ⟨sample, counted, channel, place, by simpa using found, spelled.symm, rfl⟩
  · rename_i undecodable
    simp [undecodable]

/-- The samples decoded are the elements read, each scaled by the channel it is read for. -/
theorem decodeDaqData_samples (scale : SampleScale) {daq : DaqData} {reader : SampleReader}
    (known : getDataTypeInfo daq.type = some reader) {result : DecodedDaqResult}
    (decoded : decodeDaqData scale daq = .ok result) :
    result.samples = (sampleReads daq).map fun read =>
      scale reader (elementAt reader daq.data read.1) read.2.gain read.2.offset := by
  -- The loops of the code run over the reads in the same order.
  by_cases decodable : Decodes daq
  · obtain ⟨nonempty, other, found, enough⟩ := decodable
    have same : reader = other := by
      rw [Option.mem_def, known, Option.some.injEq] at found
      exact found
    subst same
    have decodable : Decodes daq := ⟨nonempty, reader, found, enough⟩
    unfold decodeDaqData at decoded
    simp only [if_neg nonempty, known, if_neg (Nat.not_lt.mpr enough)] at decoded
    split at decoded
    · cases decoded
    · cases decoded
      simp [sampleReads, decodable, List.map_flatMap, Function.comp_def]
  · -- A chunk that is passed over yields no samples, and none of it is read.
    rw [decodeDaqData_of_not_decodes decodable] at decoded
    cases decoded
    simp [sampleReads, decodable, DecodedDaqResult.nothing]

/-- A chunk whose decoding raises is not read at all. -/
theorem decodeDaqData_raises_unread (scale : SampleScale) {daq : DaqData} {error : DataError}
    (raised : decodeDaqData scale daq = .error error) : sampleReads daq = [] := by
  -- The decoder raises only where no channel is listed, and then it reads nothing.
  by_cases decodable : Decodes daq
  · rcases decodeDaqData_of_decodes scale decodable with ⟨unlisted, _⟩ | ⟨_, _, decoded, _⟩
    · simp [sampleReads, unlisted]
    · rw [decoded] at raised
      cases raised
  · simp [sampleReads, decodable]

/-- No element read lies behind the last listed channel of the last sample. -/
theorem sampleReads_le_last {daq : DaqData} {index : Nat} {channel : AdcChannel}
    (read : (index, channel) ∈ sampleReads daq) :
    index + 1 ≤
      (daq.sampleCount.toNat - 1) * daq.channelStride.toNat + daq.channels.length := by
  obtain ⟨_, sample, counted, place, found, rfl⟩ := mem_sampleReads.mp read
  have listed : place < daq.channels.length := (List.getElem?_eq_some_iff.mp found).1
  -- No sample comes after the last one.
  have earlier : sample * daq.channelStride.toNat ≤
      (daq.sampleCount.toNat - 1) * daq.channelStride.toNat :=
    Nat.mul_le_mul_right _ (by omega)
  omega

/-- The last listed channel of the last sample is read, if samples are read at all. -/
theorem last_mem_sampleReads {daq : DaqData} (decodable : Decodes daq)
    (listed : daq.channels ≠ []) :
    ∃ read ∈ sampleReads daq, read.1 + 1 =
      (daq.sampleCount.toNat - 1) * daq.channelStride.toNat + daq.channels.length := by
  have some_channel := List.length_pos_of_ne_nil listed
  -- A chunk with no samples has no values, and is passed over.
  have some_sample : 0 < daq.sampleCount.toNat := by
    by_contra none
    have none : daq.sampleCount.toNat = 0 := by omega
    exact decodable.1 (.inl (by rw [none, Nat.mul_zero]))
  have last : daq.channels[daq.channels.length - 1]? = some (daq.channels.getLast listed) := by
    rw [← List.getLast?_eq_getElem?, List.getLast?_eq_some_getLast listed]
  refine ⟨(_, daq.channels.getLast listed), mem_sampleReads.mpr
    ⟨decodable, daq.sampleCount.toNat - 1, by omega, _, last, rfl⟩, ?_⟩
  simp only
  omega

/-- A chunk that lists no more channels than a sample has, and whose size does not wrap, is held. -/
theorem lastSampleHeld_of_channels_le {daq : DaqData} {reader : SampleReader}
    (known : getDataTypeInfo daq.type = some reader) (decodable : Decodes daq)
    (fits : daq.channelStride.toNat * daq.sampleCount.toNat * reader.elementSize < 2 ^ 64)
    (listed : daq.channels.length ≤ daq.channelStride.toNat) : LastSampleHeld daq := by
  obtain ⟨nonempty, other, found, enough⟩ := decodable
  intro used typed
  rw [Option.mem_def, known, Option.some.injEq] at found typed
  subst found typed
  rw [Nat.mod_eq_of_lt fits] at enough
  -- The size that is checked covers the last sample over its whole stride.
  have some_sample : daq.sampleCount.toNat ≠ 0 := fun none =>
    nonempty (.inl (by rw [none, Nat.mul_zero]))
  obtain ⟨earlier, count⟩ := Nat.exists_eq_succ_of_ne_zero some_sample
  calc ((daq.sampleCount.toNat - 1) * daq.channelStride.toNat + daq.channels.length) *
        reader.elementSize
      ≤ (earlier * daq.channelStride.toNat + daq.channelStride.toNat) * reader.elementSize := by
        rw [count, Nat.succ_sub_one]
        exact Nat.mul_le_mul_right _ (by omega)
    _ = daq.channelStride.toNat * daq.sampleCount.toNat * reader.elementSize := by
        rw [count, Nat.mul_comm daq.channelStride.toNat, Nat.succ_mul]
    _ ≤ daq.data.length := enough

/-- The elements read lie within the data exactly when there are none or the last one does. -/
theorem readsWithinData_iff (daq : DaqData) :
    ReadsWithinData daq ↔ ¬Decodes daq ∨ daq.channels = [] ∨ LastSampleHeld daq := by
  constructor
  · intro within
    by_cases decodable : Decodes daq
    · by_cases listed : daq.channels = []
      · exact .inr (.inl listed)
      · -- The last element read decides.
        refine .inr (.inr fun reader known => ?_)
        obtain ⟨read, member, last⟩ := last_mem_sampleReads decodable listed
        rw [← last]
        exact within reader known read member
    · exact .inl decodable
  · intro held reader known ⟨index, channel⟩ read
    have shown := mem_sampleReads.mp read
    rcases held with undecodable | unlisted | held
    · exact absurd shown.1 undecodable
    · obtain ⟨_, _, _, place, found, _⟩ := shown
      simp [unlisted] at found
    -- Every read lies at or before the last one, which is held.
    · calc (index + 1) * reader.elementSize
          ≤ ((daq.sampleCount.toNat - 1) * daq.channelStride.toNat + daq.channels.length) *
              reader.elementSize := Nat.mul_le_mul_right _ (sampleReads_le_last read)
        _ ≤ daq.data.length := held reader known

/--
When decoding reads within the data of a chunk.

The samples decoded are made of exactly the elements of `sampleReads`, and nothing is read when
decoding raises. They all lie within the data exactly when the chunk is passed over, lists no
channel, or holds the last listed channel of its last sample. That is so when no more channels are
listed than a sample has and the size does not wrap, neither of which the size check sees to.
-/
theorem reads_within_data_iff (scale : SampleScale) (daq : DaqData) :
    (∀ reader ∈ getDataTypeInfo daq.type, ∀ result, decodeDaqData scale daq = .ok result →
      result.samples = (sampleReads daq).map fun read =>
        scale reader (elementAt reader daq.data read.1) read.2.gain read.2.offset) ∧
    (∀ error, decodeDaqData scale daq = .error error → sampleReads daq = []) ∧
    (ReadsWithinData daq ↔ ¬Decodes daq ∨ daq.channels = [] ∨ LastSampleHeld daq) ∧
    (∀ reader ∈ getDataTypeInfo daq.type,
      daq.channelStride.toNat * daq.sampleCount.toNat * reader.elementSize < 2 ^ 64 →
      daq.channels.length ≤ daq.channelStride.toNat → ReadsWithinData daq) := by
  refine ⟨?_, ?_, readsWithinData_iff daq, ?_⟩
  · intro reader known result decoded
    exact decodeDaqData_samples scale known decoded
  · intro error raised
    exact decodeDaqData_raises_unread scale raised
  · intro reader known fits listed
    rw [readsWithinData_iff]
    -- With no more channels than the stride the check of the code is enough.
    by_cases decodable : Decodes daq
    · exact .inr (.inr (lastSampleHeld_of_channels_le known decodable fits listed))
    · exact .inl decodable

/-- One sample of one 16-bit value, with two channels listed. -/
def overlistedChunk : DaqData where
  -- Two channels for a stride of one: the second lies behind the data.
  data := [1, 0]
  type := .integer true 16
  channels := [⟨0, 0, 0, 0⟩, ⟨1, 0, 0, 1⟩]
  sampleCount := 1
  channelStride := 1

/-- The chunk passes the size check, and its second channel is read from behind the data. -/
theorem reads_past_data :
    Decodes overlistedChunk ∧ (sampleReads overlistedChunk).map Prod.fst = [0, 1] ∧
      ¬ReadsWithinData overlistedChunk := by
  decide

/-- A sample of 2^31 values 2^30 times over, in eight bytes: its size wraps to nothing. -/
def wrappedChunk : DaqData where
  -- The needed length is 2^64 bytes, which the code computes as zero.
  data := [0]
  type := .float 64
  channels := [⟨0, 0, 0, 0⟩]
  sampleCount := 1073741824
  channelStride := 2147483648

/-- A listed channel within the stride does not help a chunk whose size wraps. -/
example : Decodes wrappedChunk ∧ ¬LastSampleHeld wrappedChunk := by
  decide

end SampleDecoding

end Pybrid
