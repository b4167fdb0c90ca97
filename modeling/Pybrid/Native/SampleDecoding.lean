import Pybrid.Native.DataChannel

/-! Decoding of run data into sample blobs, and the queue the blobs are put into. -/

namespace Pybrid

/-- One entry of the channel list; gain and offset are the bits of doubles. -/
structure AdcChannel where
  idx : UInt32
  gain : UInt64
  offset : UInt64
  probe : UInt32
  deriving DecidableEq, Repr

/-- The element type of a chunk of samples. -/
inductive DataType where
  | float (bitwidth : UInt32)
  | integer (signed : Bool) (bitwidth : UInt32)
  /-- No type is set. -/
  | unset
  deriving DecidableEq, Repr

/-- A chunk of samples as a device sends it. -/
structure DaqData where
  data : List UInt8
  type : DataType
  channels : List AdcChannel
  sampleCount : UInt32
  channelStride : UInt32
  deriving DecidableEq, Repr

/-- A run data message, during the run or at its end. -/
structure RunDataMessage where
  /-- The chunk number, absent when no run is set. -/
  chunk : Option UInt32
  /-- The path of the entity, absent when none is set. -/
  entity : Option (List UInt8)
  data : Option DaqData
  deriving DecidableEq, Repr

/-- What the data path raises. -/
inductive DataError where
  /-- Samples without a channel list. -/
  | noChannels
  /-- An item that does not fit a slot of the queue. -/
  | messageTooLarge (messageSize maxSize : Nat)
  deriving DecidableEq, Repr

/-- The text of what is raised. -/
def DataError.what : DataError → String
  | .noChannels => "DaqData has no channels entries; cannot determine probe mapping"
  | .messageTooLarge messageSize maxSize =>
    "Message size " ++ toString messageSize ++ " bytes exceeds maximum slot size of " ++
      toString maxSize ++ " bytes"

/-- The readers of raw samples. -/
inductive SampleReader where
  | float | double | int16 | int32 | uint16 | uint32
  deriving DecidableEq, Repr

/-- The bytes a reader consumes for one sample. -/
def SampleReader.elementSize : SampleReader → Nat
  | .int16 | .uint16 => 2
  | .float | .int32 | .uint32 => 4
  | .double => 8

/-- The reader of an element type, if there is one. -/
def getDataTypeInfo : DataType → Option SampleReader
  | .float bitwidth => if bitwidth = 32 then some .float else if bitwidth = 64 then some .double else none
  | .integer true bitwidth =>
    if bitwidth = 16 then some .int16 else if bitwidth = 32 then some .int32 else none
  | .integer false bitwidth =>
    if bitwidth = 16 then some .uint16 else if bitwidth = 32 then some .uint32 else none
  | .unset => none

/-- Decoded samples with the number of channels they belong to and the probe of each channel. -/
structure DecodedDaqResult where
  /-- The samples as the bits of doubles, channel by channel within each sample. -/
  samples : List UInt64
  channelCount : Nat
  probeIndices : List UInt32
  deriving DecidableEq, Repr

/-- What undecodable data counts as. -/
def DecodedDaqResult.nothing : DecodedDaqResult where
  samples := []
  channelCount := 0
  probeIndices := []

/--
How a raw sample becomes a double.

The reader turns the bytes of one element into a double, which is multiplied by the gain and shifted
by the offset. The arithmetic of doubles is left open; nothing here depends on it.
-/
abbrev SampleScale := SampleReader → List UInt8 → UInt64 → UInt64 → UInt64

namespace SampleDecoding

/-- The bytes of one element; a position behind the end has none. -/
def elementAt (reader : SampleReader) (data : List UInt8) (index : Nat) : List UInt8 :=
  (data.drop (index * reader.elementSize)).take reader.elementSize

/-- Decode a chunk: keep the listed channels of every sample, and scale each value. -/
def decodeDaqData (scale : SampleScale) (daq : DaqData) : Except DataError DecodedDaqResult :=
  let totalValues := daq.channelStride.toNat * daq.sampleCount.toNat
  if totalValues = 0 ∨ daq.data = [] then .ok .nothing
  else
    match getDataTypeInfo daq.type with
    | none => .ok .nothing
    | some reader =>
      -- The product is a `size_t`, which wraps around.
      if daq.data.length < totalValues * reader.elementSize % 2 ^ 64 then .ok .nothing
      else if daq.channels = [] then .error .noChannels
      else
        .ok {
          samples := (List.range daq.sampleCount.toNat).flatMap fun sample =>
            daq.channels.zipIdx.map fun channel =>
              let index := sample * daq.channelStride.toNat + channel.2
              scale reader (elementAt reader daq.data index) channel.1.gain channel.1.offset
          channelCount := daq.channels.length
          probeIndices := daq.channels.map AdcChannel.probe }

/-- Round up to the alignment of a double. -/
def alignUpToDouble (value : Nat) : Nat :=
  (value + 8 - 1) / 8 * 8

/-- The four bytes of a word, least significant first. -/
def wordBytes (word : UInt32) : List UInt8 :=
  (List.range 4).map fun i => (word >>> (8 * i.toUInt32)).toUInt8

/-- The eight bytes of a double, least significant first. -/
def doubleBytes (bits : UInt64) : List UInt8 :=
  (List.range 8).map fun i => (bits >>> (8 * i.toUInt64)).toUInt8

/-- The size of the blob header: six words. -/
def headerSize : Nat := 24

/-- Sample type of data sent during the operation phase. -/
def sampleTypeOp : UInt32 := 0

/-- Sample type of data sent at the end of the operation phase. -/
def sampleTypeOpEnd : UInt32 := 1

/-- Lay out a blob: header, entity path, probe indices, padding, samples. -/
def buildBlob (entityPath : List UInt8) (result : DecodedDaqResult) (sampleType chunk : UInt32) :
    List UInt8 :=
  -- The samples of all channels are counted once for each channel.
  let sampleCount :=
    if 0 < result.channelCount then result.samples.length / result.channelCount else 0
  let hasProbes := result.probeIndices ≠ []
  let probeBytes := if hasProbes then result.channelCount * 4 else 0
  -- The samples start at the next multiple of eight.
  let baseOffset := headerSize + entityPath.length + probeBytes
  let header := [entityPath.length.toUInt32, sampleCount.toUInt32, result.channelCount.toUInt32,
    sampleType, chunk, if hasProbes then 1 else 0].flatMap wordBytes
  header ++ entityPath ++ (result.probeIndices.flatMap wordBytes).take probeBytes ++
    List.replicate (alignUpToDouble baseOffset - baseOffset) 0 ++
    result.samples.flatMap doubleBytes

/-- The slot size of the queue for sample blobs. -/
def sampleSlotSize : Nat := 65536

/-- Put an item into a queue whose slots hold this many bytes; memory does not run out. -/
def put (slotDataSize : Nat) (queue : List (List UInt8)) (item : List UInt8) :
    Except DataError (List (List UInt8)) :=
  if item.length > slotDataSize then .error (.messageTooLarge item.length slotDataSize)
  else .ok (queue ++ [item])

/-- The output queue, and what the channel's callbacks have been told. -/
structure SampleSink where
  queue : List (List UInt8)
  errors : List String
  states : List RunState
  responses : List (List UInt8)
  deriving DecidableEq, Repr

/-- Decode one run data message and put the blob into the queue. -/
def deliver (scale : SampleScale) (sampleType : UInt32) (message : RunDataMessage)
    (s : SampleSink) : Except DataError SampleSink :=
  match message.entity, message.data with
  | some entityPath, some daq => do
    let result ← decodeDaqData scale daq
    let queue ← put sampleSlotSize s.queue
      (buildBlob entityPath result sampleType (message.chunk.getD 0))
    pure { s with queue }
  -- Without an entity or without data there is nothing to put.
  | _, _ => .ok s

/-- The sample decoding channel's handler; the contents of the message are read by `view`. -/
def handleDataMessage (scale : SampleScale) (view : List UInt8 → RunDataMessage)
    (message : MessageV1) (s : SampleSink) : Except DataError SampleSink :=
  match message.kind with
  | some (.runData payload) => deliver scale sampleTypeOp (view payload) s
  | some (.runDataEnd payload) => deliver scale sampleTypeOpEnd (view payload) s
  | _ => .ok s

/-- The data channel that decodes samples; its callbacks return normally. -/
def hooks (scale : SampleScale) (view : List UInt8 → RunDataMessage) :
    DataChannelHooks DataError SampleSink where
  isDataMessage := DataChannel.isDataMessage
  handleDataMessage := handleDataMessage scale view
  onError := fun what s => { s with errors := s.errors ++ [what] }
  onRunStateChange := fun state s => { s with states := s.states ++ [state] }
  onControlResponse := fun bytes s => { s with responses := s.responses ++ [bytes] }

/-- The channel before it has received anything. -/
def initial : DataChannelState SampleSink where
  runState := .new
  hooks := { queue := [], errors := [], states := [], responses := [] }

/-- The chunk holds samples of a known type, and as many bytes as it announces. -/
def Decodes (daq : DaqData) : Prop :=
  let totalValues := daq.channelStride.toNat * daq.sampleCount.toNat
  ¬(totalValues = 0 ∨ daq.data = []) ∧
    ∃ reader ∈ getDataTypeInfo daq.type,
      totalValues * reader.elementSize % 2 ^ 64 ≤ daq.data.length

instance (daq : DaqData) : Decidable (Decodes daq) :=
  inferInstanceAs (Decidable (_ ∧ _))

/-- The size of the blob for a chunk: every listed channel adds a probe index and its samples. -/
def blobSize (entityPath : List UInt8) (daq : DaqData) : Nat :=
  if Decodes daq then
    alignUpToDouble (headerSize + entityPath.length + daq.channels.length * 4) +
      daq.channels.length * daq.sampleCount.toNat * 8
  else alignUpToDouble (headerSize + entityPath.length)

/-- A message the channel can deliver: samples come with channels, and the blob fits a slot. -/
def Deliverable (message : RunDataMessage) : Prop :=
  ∀ entityPath ∈ message.entity, ∀ daq ∈ message.data,
    (Decodes daq → daq.channels ≠ []) ∧ blobSize entityPath daq ≤ sampleSlotSize

/-- The run data in a message, if it has any, can be delivered. -/
def DeliverableMessage (view : List UInt8 → RunDataMessage) (message : MessageV1) : Prop :=
  match message.kind with
  | some (.runData payload) | some (.runDataEnd payload) => Deliverable (view payload)
  | _ => True

/-- Undecodable data counts as no samples. -/
theorem decodeDaqData_of_not_decodes {scale : SampleScale} {daq : DaqData}
    (undecodable : ¬Decodes daq) : decodeDaqData scale daq = .ok .nothing := by
  -- Every way not to decode ends in one of the three early returns.
  unfold Decodes at undecodable
  unfold decodeDaqData
  simp only
  split
  · rfl
  · rename_i nonempty
    cases known : getDataTypeInfo daq.type with
    | none => rfl
    | some reader =>
      simp only
      rw [if_pos]
      by_contra enough
      exact undecodable ⟨nonempty, reader, known, by omega⟩

/-- Samples without a channel list are what decoding raises for. -/
theorem decodeDaqData_of_decodes (scale : SampleScale) {daq : DaqData} (decodable : Decodes daq) :
    (daq.channels = [] ∧ decodeDaqData scale daq = .error .noChannels) ∨
    (daq.channels ≠ [] ∧ ∃ result, decodeDaqData scale daq = .ok result ∧
      result.samples.length = daq.sampleCount.toNat * daq.channels.length ∧
      result.channelCount = daq.channels.length ∧
      result.probeIndices.length = daq.channels.length) := by
  obtain ⟨nonempty, reader, known, enough⟩ := decodable
  have known : getDataTypeInfo daq.type = some reader := known
  unfold decodeDaqData
  simp only [if_neg nonempty, known, if_neg (Nat.not_lt.mpr enough)]
  -- Data that hold samples but list no channels raise.
  by_cases listed : daq.channels = []
  · exact .inl ⟨listed, by simp [listed]⟩
  · refine .inr ⟨listed, _, if_neg listed, ?_, rfl, by simp⟩
    simp [List.length_flatMap]

/-- A word has four bytes. -/
@[simp] theorem length_wordBytes (word : UInt32) : (wordBytes word).length = 4 := by
  simp [wordBytes]

/-- A double has eight bytes. -/
@[simp] theorem length_doubleBytes (bits : UInt64) : (doubleBytes bits).length = 8 := by
  simp [doubleBytes]

/-- Aligning never goes back. -/
theorem le_alignUpToDouble (value : Nat) : value ≤ alignUpToDouble value := by
  unfold alignUpToDouble
  omega

/-- The length of a blob, whose probe indices are as many as its channels. -/
theorem length_buildBlob (entityPath : List UInt8) {result : DecodedDaqResult}
    (sampleType chunk : UInt32) (probes : result.probeIndices.length = result.channelCount) :
    (buildBlob entityPath result sampleType chunk).length =
      alignUpToDouble (headerSize + entityPath.length + result.channelCount * 4) +
        result.samples.length * 8 := by
  -- The padding fills the gap between the end of the probe indices and the aligned samples.
  have bytes : (if result.probeIndices ≠ [] then result.channelCount * 4 else 0) =
      result.channelCount * 4 := by
    split
    · rfl
    · rename_i none
      simp only [ne_eq, not_not] at none
      simp [← probes, none]
  unfold buildBlob
  simp only [bytes]
  have padded := le_alignUpToDouble (headerSize + entityPath.length + result.channelCount * 4)
  simp only [List.length_append, List.length_flatMap, List.length_take, List.length_replicate,
    length_wordBytes, length_doubleBytes, List.map_cons, List.map_nil, List.map_const',
    List.sum_cons, List.sum_nil, List.sum_replicate, smul_eq_mul, probes, headerSize] at padded ⊢
  omega

/-- Putting returns exactly when the item fits a slot. -/
theorem put_returns_iff (slotDataSize : Nat) (queue : List (List UInt8)) (item : List UInt8) :
    (∃ after, put slotDataSize queue item = .ok after) ↔ item.length ≤ slotDataSize := by
  unfold put
  split <;> simp <;> omega

/-- Once a chunk is decoded, all that is left to fail is putting the blob. -/
theorem deliver_returns_iff_of_decoded {scale : SampleScale} {message : RunDataMessage}
    {entityPath : List UInt8} {daq : DaqData} {result : DecodedDaqResult}
    (entity : message.entity = some entityPath) (data : message.data = some daq)
    (decoded : decodeDaqData scale daq = .ok result)
    (probes : result.probeIndices.length = result.channelCount) (sampleType : UInt32)
    (s : SampleSink) :
    (∃ s', deliver scale sampleType message s = .ok s') ↔
      alignUpToDouble (headerSize + entityPath.length + result.channelCount * 4) +
        result.samples.length * 8 ≤ sampleSlotSize := by
  -- The blob is put if it is no longer than a slot.
  rw [← length_buildBlob entityPath sampleType (message.chunk.getD 0) probes,
    ← put_returns_iff sampleSlotSize s.queue]
  simp only [deliver, entity, data, decoded, bind, Except.bind]
  cases put sampleSlotSize s.queue
    (buildBlob entityPath result sampleType (message.chunk.getD 0)) <;> simp [pure, Except.pure]

/-- Delivering returns exactly when the message can be delivered. -/
theorem deliver_returns_iff (scale : SampleScale) (sampleType : UInt32) (message : RunDataMessage)
    (s : SampleSink) :
    (∃ s', deliver scale sampleType message s = .ok s') ↔ Deliverable message := by
  unfold Deliverable
  cases entity : message.entity with
  | none => simp [deliver, entity]
  | some entityPath =>
    cases data : message.data with
    | none => simp [deliver, entity, data]
    | some daq =>
      simp only [Option.mem_def, Option.some.injEq, forall_eq']
      by_cases decodable : Decodes daq
      · rcases decodeDaqData_of_decodes scale decodable with
          ⟨unlisted, raised⟩ | ⟨listed, result, decoded, samples, channels, probes⟩
        · simp [deliver, entity, data, raised, decodable, unlisted, bind, Except.bind]
        · -- As many doubles are put as there are samples of the channels listed.
          rw [deliver_returns_iff_of_decoded entity data decoded (by rw [probes, channels])]
          simp only [blobSize, samples, channels, decodable, listed, ne_eq, not_false_eq_true,
            forall_const, true_and, ↓reduceIte]
          rw [Nat.mul_comm daq.sampleCount.toNat]
      · -- Without samples the blob is header and path alone.
        rw [deliver_returns_iff_of_decoded entity data (decodeDaqData_of_not_decodes decodable) rfl]
        simp [blobSize, decodable, DecodedDaqResult.nothing]

/-- The handler returns exactly on the messages that can be delivered. -/
theorem handleDataMessage_returns_iff (scale : SampleScale) (view : List UInt8 → RunDataMessage)
    (message : MessageV1) (s : SampleSink) :
    (∃ s', handleDataMessage scale view message s = .ok s') ↔ DeliverableMessage view message := by
  unfold handleDataMessage DeliverableMessage
  -- The two kinds of run data differ in the sample type only, and nothing else is handled.
  split
  · exact deliver_returns_iff scale sampleTypeOp _ s
  · exact deliver_returns_iff scale sampleTypeOpEnd _ s
  · simp

/--
When the receive loops survive what they are sent.

Nothing is raised out of a loop exactly when every data message it comes to can be delivered:
decodable samples have a channel list, and the blob, whose samples are widened to doubles, fits a
slot.
-/
theorem receive_loops_return_iff (pb : Protobuf) (scale : SampleScale)
    (view : List UInt8 → RunDataMessage) (requireUdp : Bool) (tcp : Option (List RecvOutcome))
    (outcomes : List RecvOutcome) (s : DataChannelState SampleSink) :
    ((∃ s', DataChannel.udpReceiveLoop pb (hooks scale view) requireUdp tcp outcomes s = .ok s') ↔
      ∀ message ∈ DataChannel.udpDataMessages pb DataChannel.isDataMessage requireUdp tcp outcomes,
        DeliverableMessage view message) ∧
    ((∃ s', DataChannel.tcpReceiveLoop pb (hooks scale view) outcomes s = .ok s') ↔
      ∀ message ∈ DataChannel.tcpDataMessages pb DataChannel.isDataMessage outcomes,
        DeliverableMessage view message) := by
  -- Both loops stop at the first message that cannot be handled.
  have decides := handleDataMessage_returns_iff scale view
  exact ⟨DataChannel.udpReceiveLoop_returns_iff (h := hooks scale view) decides requireUdp tcp
    outcomes s, DataChannel.tcpReceiveLoop_returns_iff (h := hooks scale view) decides outcomes s⟩

/-- One sample of one channel for the entity `/a`, sent without a channel list. -/
def unlistedSample : RunDataMessage where
  chunk := none
  entity := some [47, 97]
  data := some {
    data := [0, 0]
    type := .integer true 16
    -- Data without channels, which the decoder raises on.
    channels := []
    sampleCount := 1
    channelStride := 1 }

/-- The contents of that message on the wire. -/
def unlistedPayload : List UInt8 :=
  [18, 4, 10, 2, 47, 97, 26, 14, 10, 2, 0, 0, 34, 4, 18, 2, 16, 16, 48, 1, 56, 1]

/-- The envelope around that message on the wire. -/
def unlistedDatagram : List UInt8 :=
  [170, 6, 25, 146, 19, 22] ++ unlistedPayload

/-- Parsers that know this one datagram. -/
def unlistedProtobuf : Protobuf where
  parseEnvelope := fun bytes =>
    if bytes = unlistedDatagram then some (.messageV1 ⟨"", some (.runData unlistedPayload)⟩) else none
  parseMessage := fun _ => none
  serializeMessage := fun _ => []

/-- A datagram of 28 bytes raises out of either loop, and what follows it is not received. -/
theorem receive_loops_raise_unlisted :
    unlistedDatagram.length = 28 ∧
    DataChannel.udpReceiveLoop unlistedProtobuf (hooks (fun _ _ _ _ => 0) fun _ => unlistedSample)
      false none [.success unlistedDatagram, .timeout] initial = .error .noChannels ∧
    DataChannel.tcpReceiveLoop unlistedProtobuf (hooks (fun _ _ _ _ => 0) fun _ => unlistedSample)
      [.success unlistedDatagram, .timeout] initial = .error .noChannels := by
  refine ⟨rfl, ?_, ?_⟩ <;> rfl

end SampleDecoding

end Pybrid
