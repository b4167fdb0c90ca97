import Pybrid.Mock.RunSamples

/-! The samples of the mock device, from its run data messages to the data of the client's run. -/

namespace Pybrid.Mock

open SampleDecoding Client SampleAssembly

/-- Which chunk of which carrier. -/
abbrev ChunkOf := (String × SampleArray) × Nat

/-- The chunks of a run, in the order in which they are sent. -/
def chunksOf (carriers : List (String × SampleArray)) : List ChunkOf :=
  carriers.flatMap fun carrier =>
    (List.range (Rows.pieces chunkSize carrier.2.numSamples)).map fun chunk => (carrier, chunk)

/-- The blob of a chunk of a carrier. -/
def ChunkOf.blob (scale : SampleScale) (at_ : ChunkOf) : List UInt8 :=
  chunkBlob scale sampleTypeOp at_.1.1 (chunkSamples at_.1.2 at_.2) at_.2

/-- The record of a chunk of a carrier. -/
def ChunkOf.record (scale : SampleScale) (at_ : ChunkOf) : ChunkRecord UInt64 :=
  chunkRecord scale sampleTypeOp at_.1.1 (chunkSamples at_.1.2 at_.2) at_.2

/-- The carriers of a run: their data can be sent, and is told apart by the client. -/
structure Sendable (carriers : List (String × SampleArray)) : Prop where
  channels : ∀ carrier ∈ carriers, 0 < carrier.2.numChannels ∧ carrier.2.numChannels < 2 ^ 32
  samples : ∀ carrier ∈ carriers, 0 < carrier.2.numSamples ∧
    Rows.pieces chunkSize carrier.2.numSamples < 2 ^ 32
  macs : (carriers.map Prod.fst).Nodup
  paths : ∀ carrier ∈ carriers, ∃ entity, parsePath (utf8 (carrierPath carrier.1)) = .ok entity
  /-- A full chunk fits a slot of the native queue. -/
  fits : ∀ carrier ∈ carriers, alignUpToDouble (headerSize +
    (utf8 (carrierPath carrier.1)).length + carrier.2.numChannels * 4) +
      min chunkSize carrier.2.numSamples * carrier.2.numChannels * 8 ≤ sampleSlotSize

section Sendable

variable {carriers : List (String × SampleArray)} (sendable : Sendable carriers)
  (scale : SampleScale)

include sendable in
/-- A path fits a slot, and its length a word. -/
theorem Sendable.short {carrier : String × SampleArray} (listed : carrier ∈ carriers) :
    (utf8 (carrierPath carrier.1)).length < 2 ^ 32 := by
  -- A path that long would not fit a slot.
  have room := sendable.fits carrier listed
  have := le_alignUpToDouble
    (headerSize + (utf8 (carrierPath carrier.1)).length + carrier.2.numChannels * 4)
  simp only [sampleSlotSize] at room
  omega

include sendable in
/-- What is known of each chunk of a run. -/
theorem Sendable.chunk {at_ : ChunkOf} (member : at_ ∈ chunksOf carriers) :
    at_.1 ∈ carriers ∧ Announceable (chunkSamples at_.1.2 at_.2) ∧
      (utf8 (carrierPath at_.1.1)).length < 2 ^ 32 ∧ at_.2 < 2 ^ 32 ∧
      (at_.blob scale).length ≤ sampleSlotSize := by
  obtain ⟨carrier, listed, found⟩ := List.mem_flatMap.mp member
  obtain ⟨chunk, counted, rfl⟩ := List.mem_map.mp found
  have counted := List.mem_range.mp counted
  have announceable : Announceable (chunkSamples carrier.2 chunk) :=
    announceable_chunk (sendable.channels carrier listed) counted
  have piece := Rows.length_piece (by decide : 0 < chunkSize) counted
  simp only [Rows.piece, List.length_range'] at piece
  -- A chunk has no more samples than a full one.
  have few : (chunkSamples carrier.2 chunk).numSamples ≤ min chunkSize carrier.2.numSamples := by
    refine Nat.le_min.mpr ⟨piece.2.1, ?_⟩
    have := piece.2.2
    simp only [chunkSamples, SampleArray.columns] at this ⊢
    omega
  refine ⟨listed, announceable, sendable.short listed,
    counted.trans (sendable.samples carrier listed).2, ?_⟩
  refine Nat.le_trans (Nat.le_of_eq (length_chunkBlob scale _ _ _ _))
    (Nat.le_trans ?_ (sendable.fits carrier listed))
  exact Nat.add_le_add_left (Nat.mul_le_mul_right 8 (Nat.mul_le_mul_right _ few)) _

include sendable in
/-- All messages of a run are delivered: one blob for each chunk, in their order. -/
theorem Sendable.delivered (sink : SampleSink) :
    (carriers.flatMap fun carrier => (List.range (Rows.pieces chunkSize carrier.2.numSamples)).map
        (chunkMessage carrier.1 carrier.2)).foldlM
      (fun sink message => deliver scale sampleTypeOp message sink) sink =
      .ok { sink with queue := sink.queue ++ (chunksOf carriers).map (ChunkOf.blob scale) } := by
  have messages : (carriers.flatMap fun carrier =>
      (List.range (Rows.pieces chunkSize carrier.2.numSamples)).map
        (chunkMessage carrier.1 carrier.2)) =
      (chunksOf carriers).map fun at_ => chunkMessage at_.1.1 at_.1.2 at_.2 := by
    simp [chunksOf, List.map_flatMap, Function.comp_def]
  rw [messages]
  -- The induction is on the chunks still to be sent.
  have each : ∀ at_ ∈ chunksOf carriers, Announceable (chunkSamples at_.1.2 at_.2) ∧
      (at_.blob scale).length ≤ sampleSlotSize :=
    fun at_ member => ⟨(sendable.chunk scale member).2.1, (sendable.chunk scale member).2.2.2.2⟩
  generalize chunksOf carriers = chunks at each
  induction chunks generalizing sink with
  | nil => simp [pure, Except.pure]
  | cons at_ later ih =>
    obtain ⟨announceable, fits⟩ := each at_ List.mem_cons_self
    rw [List.map_cons, List.foldlM_cons, chunkMessage, deliver_message scale sampleTypeOp announceable fits]
    simp only [bind, Except.bind]
    rw [ih _ fun other member => each other (List.mem_cons_of_mem _ member)]
    simp [ChunkOf.blob]

include sendable in
/-- Buffering the blobs of some chunks of a run gives their records. -/
theorem Sendable.buffered (order : List ChunkOf) (known : ∀ at_ ∈ order, at_ ∈ chunksOf carriers)
    (buffer : List (String × ChunkRecord UInt64)) :
    ((order.map (ChunkOf.blob scale)).foldl (fun buffer blob => bufferSampleBlob blob buffer)
        buffer).map Prod.snd = buffer.map Prod.snd ++ order.map (ChunkOf.record scale) := by
  -- Each blob adds its own chunk at the end.
  induction order generalizing buffer with
  | nil => simp
  | cons at_ later ih =>
    obtain ⟨_, announceable, short, numbered, _⟩ := sendable.chunk scale (known at_ List.mem_cons_self)
    rw [List.map_cons, List.foldl_cons, ChunkOf.blob, buffer_chunkBlob scale sampleTypeOp announceable short numbered,
      ih fun other member => known other (List.mem_cons_of_mem _ member)]
    simp [ChunkOf.record]

/-- The samples of a channel as the client hears them. -/
def heardRow (samples : SampleArray) (channel : Nat) : List UInt64 :=
  (List.range samples.numSamples).map fun sample => heard scale (samples.value channel sample)

/-- The records of a carrier, in the order of their chunks. -/
def carrierRecords (carrier : String × SampleArray) : List (ChunkRecord UInt64) :=
  (List.range (Rows.pieces chunkSize carrier.2.numSamples)).map fun chunk =>
    ChunkOf.record scale (carrier, chunk)

/-- What groups the records of a carrier. -/
def carrierKey (carrier : String × SampleArray) : List UInt8 × Nat :=
  (utf8 (carrierPath carrier.1), sampleTypeOp.toNat)

/-- The records of all carriers are those of each of them. -/
theorem records_chunksOf (carriers : List (String × SampleArray)) :
    (chunksOf carriers).map (ChunkOf.record scale) = carriers.flatMap (carrierRecords scale) := by
  simp only [chunksOf, List.map_flatMap, List.map_map]
  rfl

/-- The bytes of a text are those of no other text. -/
theorem utf8_injective {first second : String} (same : utf8 first = utf8 second) :
    first = second := by
  -- What is encoded can be decoded.
  have decoded := BlobCodec.decodeUtf8_utf8 first
  rw [same, BlobCodec.decodeUtf8_utf8] at decoded
  exact (Option.some.inj decoded).symm

/-- Carriers with different addresses have different keys. -/
theorem carrierKey_injective {first second : String × SampleArray}
    (same : carrierKey first = carrierKey second) : first.1 = second.1 := by
  -- The path of a carrier spells its address.
  have paths := utf8_injective (Prod.mk.inj same).1
  have texts := congrArg String.toList paths
  simp only [carrierPath, String.toList_append, List.append_cancel_left_eq] at texts
  exact String.toList_inj.mp texts

include sendable in
/-- The records of a carrier alone are grouped under its key. -/
theorem Sendable.groupOf_records {carrier : String × SampleArray} (listed : carrier ∈ carriers) :
    groupOf (carriers.flatMap (carrierRecords scale)) (carrierKey carrier) =
      carrierRecords scale carrier := by
  have own : ∀ other record, record ∈ carrierRecords scale other → groupKey record = carrierKey other := by
    intro other record member
    obtain ⟨chunk, _, rfl⟩ := List.mem_map.mp member
    rfl
  have macs := sendable.macs
  -- The induction is on the carriers; only one of them has this address.
  have general : ∀ carriers : List (String × SampleArray), (carriers.map Prod.fst).Nodup →
      carrier ∈ carriers →
      groupOf (carriers.flatMap (carrierRecords scale)) (carrierKey carrier) =
        carrierRecords scale carrier := by
    intro carriers
    induction carriers with
    | nil => simp
    | cons other later ih =>
      intro distinct listed
      rw [List.map_cons, List.nodup_cons] at distinct
      rw [List.flatMap_cons, groupOf, List.filter_append]
      rcases List.mem_cons.mp listed with rfl | behind
      · have none_ : (later.flatMap (carrierRecords scale)).filter
            (fun record => decide (groupKey record = carrierKey carrier)) = [] := by
          refine List.filter_eq_nil_iff.mpr fun record member => ?_
          obtain ⟨another, found, inside⟩ := List.mem_flatMap.mp member
          rw [own another record inside, decide_eq_true_eq]
          intro same
          exact distinct.1 (carrierKey_injective same ▸ List.mem_map_of_mem found)
        rw [none_, List.append_nil]
        exact List.filter_eq_self.mpr fun record member => decide_eq_true (own carrier record member)
      · have none_ : (carrierRecords scale other).filter
            (fun record => decide (groupKey record = carrierKey carrier)) = [] := by
          refine List.filter_eq_nil_iff.mpr fun record member => ?_
          rw [own other record member, decide_eq_true_eq]
          intro same
          exact distinct.1 (carrierKey_injective same ▸ List.mem_map_of_mem behind)
        rw [none_, List.nil_append]
        exact ih distinct.2 behind
  exact general carriers macs listed

/-- The chunks of a carrier are sorted, whatever order they have come in. -/
theorem sortChunks_carrierRecords {carrier : String × SampleArray}
    {group : List (ChunkRecord UInt64)} (perm : group.Perm (carrierRecords scale carrier)) :
    sortChunks group = carrierRecords scale carrier := by
  have total : Std.Total fun chunk other : ChunkRecord UInt64 => chunk.chunkNumber ≤ other.chunkNumber :=
    ⟨fun _ _ => Nat.le_total _ _⟩
  have trans : IsTrans (ChunkRecord UInt64) fun chunk other => chunk.chunkNumber ≤ other.chunkNumber :=
    ⟨fun _ _ _ => Nat.le_trans⟩
  have sorted : (carrierRecords scale carrier).Pairwise fun chunk other =>
      chunk.chunkNumber < other.chunkNumber := by
    rw [carrierRecords, List.pairwise_map]
    exact List.pairwise_lt_range.imp fun below => below
  have rearranged : (sortChunks group).Perm (carrierRecords scale carrier) :=
    (List.perm_insertionSort _ _).trans perm
  -- A group sorted with `≤` is sorted with `<`, since its numbers are those of the carrier.
  have distinct : ((sortChunks group).map ChunkRecord.chunkNumber).Nodup := by
    have numbers : (carrierRecords scale carrier).map ChunkRecord.chunkNumber =
        List.range (Rows.pieces chunkSize carrier.2.numSamples) := by
      rw [carrierRecords, List.map_map]
      exact List.map_id _
    rw [(rearranged.map _).nodup_iff, numbers]
    exact List.nodup_range
  have strict : (sortChunks group).Pairwise fun chunk other =>
      chunk.chunkNumber < other.chunkNumber := by
    have ordered := List.pairwise_insertionSort
      (fun chunk other : ChunkRecord UInt64 => chunk.chunkNumber ≤ other.chunkNumber) group
    rw [List.nodup_iff_pairwise_ne, List.pairwise_map] at distinct
    exact (ordered.and distinct).imp fun both => lt_of_le_of_ne both.1 both.2
  refine List.Perm.eq_of_pairwise ?_ strict sorted rearranged
  intro chunk other _ _ below above
  exact absurd (below.trans above) (lt_irrefl _)

include sendable in
/-- A carrier contributes one entry for each channel: all of its samples, in order. -/
theorem Sendable.groupEntries_records {carrier : String × SampleArray} (listed : carrier ∈ carriers) :
    groupEntries (carrierRecords scale carrier) = (List.range carrier.2.numChannels).map
      fun channel => (channel, heardRow scale carrier.2 channel) := by
  -- There is a first chunk, and it speaks for the channels of all of them.
  have some_ := (sendable.samples carrier listed).1
  obtain ⟨first, later, split⟩ := List.exists_cons_of_ne_nil
    (show carrierRecords scale carrier ≠ [] by
      simp only [carrierRecords, ne_eq, List.map_eq_nil_iff, List.range_eq_nil, Rows.pieces, chunkSize]
      omega)
  obtain ⟨chunk, _, made⟩ := List.mem_map.mp
    (show first ∈ carrierRecords scale carrier by rw [split]; exact List.mem_cons_self)
  have count : first.channelCount = carrier.2.numChannels := by
    rw [← made]
    rfl
  have probes : probesOf first = List.range carrier.2.numChannels := by
    rw [← made]
    rfl
  have rows : ∀ channel < carrier.2.numChannels, (carrierRecords scale carrier).flatMap (channelSamples channel) =
      heardRow scale carrier.2 channel := by
    intro channel inside
    have each : ∀ chunk, channelSamples channel (ChunkOf.record scale (carrier, chunk)) =
        (Rows.piece chunkSize carrier.2.numSamples chunk).map fun sample =>
          heard scale (carrier.2.value channel sample) := by
      intro chunk
      have present : channel < (chunkSamples carrier.2 chunk).numChannels := inside
      simp only [channelSamples, ChunkOf.record, chunkRecord, List.getD_eq_getElem?_getD,
        List.getElem?_map, List.getElem?_range present, Option.map_some, Option.getD_some,
        Rows.piece, List.range'_eq_map_range, List.map_map, Function.comp_def]
      rfl
    rw [carrierRecords, List.flatMap_map]
    simp only [each]
    rw [← List.map_flatMap, Rows.flatMap_pieces (by decide)]
    rfl
  rw [split, groupEntries, count, probes, ← split]
  refine List.map_congr_left fun channel inside => ?_
  have inside := List.mem_range.mp inside
  rw [rows channel inside, List.getD_eq_getElem _ _ (by simpa using inside), List.getElem_range]

end Sendable

/-- The highest number of channels there is. -/
def maxChannels (carriers : List (String × SampleArray)) : Nat :=
  (carriers.map fun carrier => carrier.2.numChannels).foldl max 0

/-- What the data of a run hold for a channel: its samples on each carrier that has it. -/
def channelData (scale : SampleScale) (carriers : List (String × SampleArray)) (channel : Nat) :
    List UInt64 :=
  (carriers.filter fun carrier => channel < carrier.2.numChannels).flatMap fun carrier =>
    heardRow scale carrier.2 channel

/-- The entries of several carriers are put together channel by channel. -/
theorem dataByProbe_rows {order : List (String × SampleArray)}
    (row : String × SampleArray → Nat → List UInt64)
    (positive : ∀ carrier ∈ order, 0 < carrier.2.numChannels) (some_ : order ≠ []) :
    dataByProbe (order.flatMap fun carrier => (List.range carrier.2.numChannels).map
        fun channel => (channel, row carrier channel)) =
      (List.range (maxChannels order)).map fun channel =>
        some ((order.filter fun carrier => channel < carrier.2.numChannels).flatMap
          fun carrier => row carrier channel) := by
  have known : ∀ channel, channel ∈ (order.flatMap fun carrier =>
      (List.range carrier.2.numChannels).map fun channel => (channel, row carrier channel)).map
        Prod.fst ↔ ∃ carrier ∈ order, channel < carrier.2.numChannels := by
    intro channel
    simp only [List.mem_map, List.mem_flatMap, List.mem_range]
    constructor
    · rintro ⟨_, ⟨carrier, listed, channel', inside, rfl⟩, rfl⟩
      exact ⟨carrier, listed, inside⟩
    · rintro ⟨carrier, listed, inside⟩
      exact ⟨(channel, row carrier channel), ⟨carrier, listed, channel, inside, rfl⟩, rfl⟩
  -- Some carrier has the most channels, and the highest probe is the last of them.
  obtain ⟨_, widest, reached⟩ := foldl_max_spec (order.map fun carrier => carrier.2.numChannels) 0
  obtain ⟨wide, listed, most⟩ : ∃ carrier ∈ order, carrier.2.numChannels = maxChannels order := by
    rcases reached with none_ | member
    · obtain ⟨carrier, listed⟩ := List.exists_mem_of_ne_nil _ some_
      have := widest _ (List.mem_map_of_mem listed)
      have := positive carrier listed
      omega
    · exact List.mem_map.mp member
  have bounded : ∀ carrier ∈ order, carrier.2.numChannels ≤ maxChannels order :=
    fun carrier listed => widest _ (List.mem_map_of_mem listed)
  obtain ⟨_, each, found⟩ := foldl_max_spec ((order.flatMap fun carrier =>
      (List.range carrier.2.numChannels).map fun channel => (channel, row carrier channel)).map
        Prod.fst) 0
  have reach : ((order.flatMap fun carrier => (List.range carrier.2.numChannels).map fun channel =>
      (channel, row carrier channel)).map Prod.fst).foldl max 0 + 1 = maxChannels order := by
    have filled := positive wide listed
    have highest := each (maxChannels order - 1) ((known _).mpr ⟨wide, listed, by omega⟩)
    rcases found with zero | member
    · omega
    · obtain ⟨carrier, listed', inside⟩ := (known _).mp member
      have := bounded carrier listed'
      omega
  rw [dataByProbe, reach]
  refine List.map_congr_left fun channel inside => ?_
  have inside := List.mem_range.mp inside
  rw [if_pos ((known channel).mpr ⟨wide, listed, by omega⟩), List.filter_flatMap, List.flatMap_assoc]
  -- A carrier has one entry for the channel, or none.
  refine congrArg some ?_
  rw [Rows.flatMap_filter]
  refine List.flatMap_congr fun carrier _ => ?_
  rw [List.filter_map]
  simp only [Function.comp_def, List.filter_eq]
  by_cases has : channel < carrier.2.numChannels
  · rw [List.count_eq_one_of_mem List.nodup_range (List.mem_range.mpr has), if_pos (by simpa using has)]
    simp
  · rw [List.count_eq_zero_of_not_mem (by simpa using has), if_neg (by simpa using has)]
    simp

/-- The carriers with the samples that are sent of them. -/
def sent (stage : ErrorStage) (carriers : List (String × SampleArray)) :
    List (String × SampleArray) :=
  carriers.map fun carrier => (carrier.1, sentSamples stage carrier.2)

/-- The chunks the client has buffered after these blobs have arrived. -/
def received (arrived : List (List UInt8)) : List (ChunkRecord UInt64) :=
  (arrived.foldl (fun buffer blob => bufferSampleBlob blob buffer) []).map Prod.snd

/-- The records of carriers can be assembled, in any order. -/
theorem Sendable.assemblable {carriers : List (String × SampleArray)} (sendable : Sendable carriers)
    (scale : SampleScale) {chunks : List (ChunkRecord UInt64)}
    (perm : chunks.Perm (carriers.flatMap (carrierRecords scale))) :
    opChunks chunks = chunks ∧ Assemblable chunks := by
  have each : ∀ record ∈ chunks, ∃ carrier ∈ carriers, ∃ chunk,
      record = ChunkOf.record scale (carrier, chunk) := by
    intro record member
    obtain ⟨carrier, listed, inside⟩ := List.mem_flatMap.mp (perm.mem_iff.mp member)
    obtain ⟨chunk, _, rfl⟩ := List.mem_map.mp inside
    exact ⟨carrier, listed, chunk, rfl⟩
  have op : opChunks chunks = chunks := by
    refine List.filter_eq_self.mpr fun record member => ?_
    obtain ⟨carrier, _, chunk, rfl⟩ := each record member
    rfl
  have path : ∀ record ∈ chunks, ∃ entity, parsePath record.entityPath = .ok entity := by
    intro record member
    obtain ⟨carrier, listed, chunk, rfl⟩ := each record member
    exact sendable.paths carrier listed
  refine ⟨op, path, ?_⟩
  rw [op]
  refine ⟨fun record member => ⟨path record member, ?_, ?_⟩, fun record member => ?_, ?_⟩
  · obtain ⟨carrier, _, chunk, rfl⟩ := each record member
    simp [ChunkOf.record, chunkRecord]
  · obtain ⟨carrier, _, chunk, rfl⟩ := each record member
    exact ⟨_, rfl, by simp [ChunkOf.record, chunkRecord]⟩
  · obtain ⟨carrier, _, chunk, rfl⟩ := each record member
    rfl
  · -- A key belongs to one carrier, and a carrier has its channels.
    intro record member other member' same
    obtain ⟨carrier, listed, chunk, rfl⟩ := each record member
    obtain ⟨carrier', listed', chunk', rfl⟩ := each other member'
    have mac : carrier.1 = carrier'.1 := carrierKey_injective same
    obtain rfl := List.inj_on_of_nodup_map sendable.macs listed listed' mac
    exact ⟨rfl, rfl⟩

/-- The entries of all groups, carrier by carrier in some order. -/
theorem Sendable.allEntries_records {carriers : List (String × SampleArray)}
    (sendable : Sendable carriers) (scale : SampleScale) {chunks : List (ChunkRecord UInt64)}
    (perm : chunks.Perm (carriers.flatMap (carrierRecords scale))) :
    ∃ order : List (String × SampleArray), order.Perm carriers ∧
      allEntries chunks = order.flatMap fun carrier => (List.range carrier.2.numChannels).map
        fun channel => (channel, heardRow scale carrier.2 channel) := by
  -- The keys of the groups are those of the carriers.
  have keys : ((chunks.map groupKey).reverse.dedup.reverse).Perm (carriers.map carrierKey) := by
    have distinct : (carriers.map carrierKey).Nodup := by
      have macs := sendable.macs
      rw [List.nodup_iff_pairwise_ne, List.pairwise_map] at macs ⊢
      exact macs.imp fun different same => different (carrierKey_injective same)
    refine (List.perm_ext_iff_of_nodup (List.nodup_reverse.mpr (List.nodup_dedup _)) distinct).mpr
      fun key => ?_
    rw [mem_keys, List.mem_map]
    constructor
    · rintro ⟨record, member, rfl⟩
      obtain ⟨carrier, listed, inside⟩ := List.mem_flatMap.mp (perm.mem_iff.mp member)
      obtain ⟨chunk, _, rfl⟩ := List.mem_map.mp inside
      exact ⟨carrier, listed, rfl⟩
    · rintro ⟨carrier, listed, rfl⟩
      refine ⟨ChunkOf.record scale (carrier, 0), perm.mem_iff.mpr ?_, rfl⟩
      refine List.mem_flatMap.mpr ⟨carrier, listed, List.mem_map.mpr ⟨0, List.mem_range.mpr ?_, rfl⟩⟩
      have := (sendable.samples carrier listed).1
      simp only [Rows.pieces, chunkSize]
      omega
  obtain ⟨order, moved, mapped⟩ := Rows.exists_perm_map keys
  refine ⟨order, moved, ?_⟩
  rw [allEntries, mapped, List.flatMap_map]
  refine List.flatMap_congr fun carrier member => ?_
  have listed := moved.mem_iff.mp member
  have group : (groupOf chunks (carrierKey carrier)).Perm (carrierRecords scale carrier) := by
    have filtered := perm.filter fun record => decide (groupKey record = carrierKey carrier)
    have own := sendable.groupOf_records scale listed
    rw [groupOf] at own
    rwa [own] at filtered
  rw [sortChunks_carrierRecords scale group, sendable.groupEntries_records scale listed]

/-- The chunks of some carriers are assembled to their data, among what else has been received. -/
theorem Sendable.assembled {carriers : List (String × SampleArray)} (sendable : Sendable carriers)
    (scale : SampleScale) (some_ : carriers ≠ []) {chunks : List (ChunkRecord UInt64)}
    (perm : (opChunks chunks).Perm (carriers.flatMap (carrierRecords scale)))
    (paths : ∀ chunk ∈ chunks, ∃ entity, parsePath chunk.entityPath = .ok entity)
    (clustersPerCarrier : List (List (List UInt8) × Nat)) (run : RunData UInt64) :
    ∃ (order : List (String × SampleArray)) (final : RunData UInt64), order.Perm carriers ∧
      assembleRunData clustersPerCarrier chunks run = .ok () final ∧
      final.data = (List.range (maxChannels order)).map fun channel =>
        some (channelData scale order channel) := by
  obtain ⟨op, alone⟩ := sendable.assemblable scale perm
  have can : Assemblable chunks := ⟨paths, op ▸ alone.op⟩
  obtain ⟨order, sorted, entries⟩ := sendable.allEntries_records scale perm
  obtain ⟨final, assembled, data⟩ := can.assembled clustersPerCarrier run
  have nonempty : order ≠ [] := by
    rintro rfl
    exact some_ (List.nil_perm.mp sorted)
  have positive : ∀ carrier ∈ order, 0 < carrier.2.numChannels :=
    fun carrier listed => (sendable.channels carrier (sorted.mem_iff.mp listed)).1
  refine ⟨order, final, sorted, assembled, ?_⟩
  -- Every carrier sends a chunk with a channel.
  have filled : allEntries (opChunks chunks) ≠ [] := by
    obtain ⟨carrier, listed⟩ := List.exists_mem_of_ne_nil _ nonempty
    rw [entries]
    exact List.ne_nil_of_mem (List.mem_flatMap.mpr ⟨carrier, listed, List.mem_map.mpr
      ⟨0, List.mem_range.mpr (positive carrier listed), rfl⟩⟩)
  rw [data, if_neg filled, entries, dataByProbe_rows (fun carrier => heardRow scale carrier.2)
    positive nonempty]
  rfl

/--
The samples of the mock device come back as they were sent.

Every message is decoded and queued, and in whatever order the blobs are buffered, the client's run
holds for each channel all of its samples in their order, carrier by carrier.
-/
theorem mock_samples_restored (scale : SampleScale) {stage : ErrorStage}
    {carriers : List (String × SampleArray)} (sendable : Sendable (sent stage carriers))
    (some_ : carriers ≠ []) (sink : SampleSink) :
    ∃ blobs, (sendSamples stage carriers).foldlM
        (fun sink message => deliver scale sampleTypeOp message sink) sink =
          .ok { sink with queue := sink.queue ++ blobs } ∧
      ∀ arrived, arrived.Perm blobs → ∀ clustersPerCarrier run,
        ∃ (order : List (String × SampleArray)) (final : RunData UInt64),
          order.Perm (sent stage carriers) ∧
          assembleRunData clustersPerCarrier (received arrived) run = .ok () final ∧
          final.data = (List.range (maxChannels order)).map fun channel =>
            some (channelData scale order channel) := by
  have messages : sendSamples stage carriers = (sent stage carriers).flatMap fun carrier =>
      (List.range (Rows.pieces chunkSize carrier.2.numSamples)).map
        (chunkMessage carrier.1 carrier.2) := by
    rw [sent, List.flatMap_map]
    rfl
  refine ⟨(chunksOf (sent stage carriers)).map (ChunkOf.blob scale), ?_, ?_⟩
  · rw [messages]
    exact sendable.delivered scale sink
  · intro arrived perm clustersPerCarrier run
    -- What has arrived are the blobs of the same chunks in another order.
    obtain ⟨chunks, moved, rfl⟩ := Rows.exists_perm_map perm
    have buffered : received (chunks.map (ChunkOf.blob scale)) = chunks.map (ChunkOf.record scale) := by
      rw [received, sendable.buffered scale chunks fun at_ member => moved.mem_iff.mp member]
      simp
    have records : (chunks.map (ChunkOf.record scale)).Perm
        ((sent stage carriers).flatMap (carrierRecords scale)) := by
      rw [← records_chunksOf]
      exact moved.map _
    obtain ⟨op, can⟩ := sendable.assemblable scale records
    have some_' : sent stage carriers ≠ [] := by simpa [sent] using some_
    rw [← op] at records
    rw [buffered]
    exact sendable.assembled scale some_' records can.path clustersPerCarrier run

/-- The double with the value of a single, which every single has. -/
def singleToDouble (bits : Nat) : Nat :=
  let sign := bits / 2 ^ 31 * 2 ^ 63
  let exponent := bits / 2 ^ 23 % 2 ^ 8
  let fraction := bits % 2 ^ 23
  if exponent = 255 then sign + 2047 * 2 ^ 52 + fraction * 2 ^ 29
  else if 0 < exponent then sign + (exponent + 896) * 2 ^ 52 + fraction * 2 ^ 29
  else if fraction = 0 then sign
  -- The leading bit of a subnormal single is not stored in a double.
  else sign + (874 + fraction.log2) * 2 ^ 52 + fraction * 2 ^ (52 - fraction.log2) % 2 ^ 52

/-- What scaling makes of a single with the gain one and the offset zero. -/
def unitScale : SampleScale := fun _ bytes _ _ =>
  (singleToDouble (readLittleEndian bytes 0 4)).toUInt64

/-- Two carriers, one of them with two channels and two chunks of samples. -/
def pairCarriers : List (String × SampleArray) :=
  [("AB-CD-EF-12-34-56", ⟨2, 150, fun channel sample => (1000 * channel + sample).toUInt32⟩),
    ("AB-CD-EF-12-34-57", ⟨1, 40, fun _ sample => sample.toUInt32⟩)]

/-- Their samples can be sent. -/
theorem pairCarriers_sendable : Sendable (sent .none pairCarriers) where
  channels := by simp [sent, pairCarriers, sentSamples, SampleArray.columns]
  samples := by
    simp [sent, pairCarriers, sentSamples, SampleArray.columns, actualSamples, Rows.pieces, chunkSize]
  macs := by decide +kernel
  paths := by
    intro carrier member
    simp only [sent, pairCarriers, List.map_cons, List.map_nil, List.mem_cons, List.not_mem_nil,
      or_false] at member
    -- Both addresses are parsed as one part of a path.
    rcases member with rfl | rfl
    · exact ⟨[utf8 "AB-CD-EF-12-34-56"], by decide +kernel⟩
    · exact ⟨[utf8 "AB-CD-EF-12-34-57"], by decide +kernel⟩
  fits := by
    intro carrier member
    simp only [sent, pairCarriers, List.map_cons, List.map_nil, List.mem_cons, List.not_mem_nil,
      or_false] at member
    rcases member with rfl | rfl <;> decide +kernel

/-- The samples of one channel, as the client hears them. -/
def pairRow (first numSamples : Nat) : List UInt64 :=
  (List.range numSamples).map fun sample => heard unitScale (first + sample).toUInt32

/-- Whichever of the chunks arrives first, all samples of both channels come back. -/
theorem mock_samples_restored_pair :
    ∃ blobs, (sendSamples .none pairCarriers).foldlM
        (fun sink message => deliver unitScale sampleTypeOp message sink) ⟨[], [], [], []⟩ =
          .ok ⟨blobs, [], [], []⟩ ∧
      ∀ arrived, arrived.Perm blobs → ∃ final : RunData UInt64,
        assembleRunData [] (received arrived) RunData.empty = .ok () final ∧
        (final.data = [some (pairRow 0 150 ++ pairRow 0 40), some (pairRow 1000 150)] ∨
          final.data = [some (pairRow 0 40 ++ pairRow 0 150), some (pairRow 1000 150)]) := by
  obtain ⟨blobs, delivered, restored⟩ := mock_samples_restored unitScale pairCarriers_sendable
    (by simp [pairCarriers]) ⟨[], [], [], []⟩
  refine ⟨blobs, delivered, fun arrived perm => ?_⟩
  obtain ⟨order, final, sorted, assembled, data⟩ := restored arrived perm [] RunData.empty
  refine ⟨final, assembled, ?_⟩
  -- The carriers are put together in the order of their first chunks, which may be either.
  rcases List.perm_pair.mp sorted with rfl | rfl
  · left
    rw [data]
    simp [maxChannels, channelData, heardRow, pairRow, sentSamples, SampleArray.columns,
      actualSamples, List.range_succ]
  · right
    rw [data]
    simp [maxChannels, channelData, heardRow, pairRow, sentSamples, SampleArray.columns,
      actualSamples, List.range_succ]

end Pybrid.Mock
