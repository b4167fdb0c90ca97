import Pybrid.Library.Merge
import Pybrid.Mock.RunSession

/-! The data that mock devices send in a run, part by part, and what the client makes of it in any order. -/

namespace Pybrid.Mock

open SampleDecoding Client SampleAssembly

section Messages

variable (scale : SampleScale)

/-- What the delivery of run data adds to an output queue. -/
def deliveredBlobs (sampleType : UInt32) (message : RunDataMessage) : List (List UInt8) :=
  match deliver scale sampleType message ⟨[], [], [], []⟩ with
  | .ok sink => sink.queue
  | .error _ => []

/-- The blobs of a message about a run. -/
def RunMessage.blobs : RunMessage → List (List UInt8)
  | .runStateChange _ _ => []
  | .runData message => deliveredBlobs scale sampleTypeOp message
  | .runDataEnd message => deliveredBlobs scale sampleTypeOpEnd message

/-- The state that a message announces, if it is about the state. -/
def RunMessage.newState : RunMessage → Option RunState
  | .runStateChange _ new_ => some new_
  | .runData _ | .runDataEnd _ => none

/-- What a delivery adds does not depend on what is there. -/
theorem deliver_adds {sampleType : UInt32} {message : RunDataMessage} {sink next : SampleSink}
    (delivered : deliver scale sampleType message sink = .ok next) :
    next = { sink with queue := sink.queue ++ deliveredBlobs scale sampleType message } := by
  obtain ⟨chunk, entity, data⟩ := message
  cases entity with
  | none =>
    cases delivered
    simp [deliveredBlobs, deliver]
  | some entityPath =>
    cases data with
    | none =>
      cases delivered
      simp [deliveredBlobs, deliver]
    | some daq =>
      cases decoded : decodeDaqData scale daq with
      | error raised => simp [deliver, decoded, bind, Except.bind] at delivered
      | ok result =>
        -- The blob fits a slot of any queue, or of none.
        by_cases large : sampleSlotSize < (buildBlob entityPath result sampleType (chunk.getD 0)).length
        · simp [deliver, decoded, put, large, bind, Except.bind] at delivered
        · simp only [deliver, decoded, put, large, if_false, bind, Except.bind, pure, Except.pure,
            Except.ok.injEq] at delivered
          simp [← delivered, deliveredBlobs, deliver, decoded, put, large, bind, Except.bind, pure,
            Except.pure]

/-- Some samples of a carrier as they are sent in one message. -/
structure DataPart where
  sampleType : UInt32
  carrierMac : String
  samples : SampleArray
  chunk : Nat

/-- Its run data message. -/
def DataPart.message (part : DataPart) : RunDataMessage :=
  ⟨some part.chunk.toUInt32, some (utf8 (carrierPath part.carrierMac)), some (daqData part.samples)⟩

/-- Its blob. -/
def DataPart.blob (part : DataPart) : List UInt8 :=
  chunkBlob scale part.sampleType part.carrierMac part.samples part.chunk

/-- Its record. -/
def DataPart.record (part : DataPart) : ChunkRecord UInt64 :=
  chunkRecord scale part.sampleType part.carrierMac part.samples part.chunk

/-- The part gets through the native queue and is told apart by the client. -/
structure DataPart.Sound (part : DataPart) : Prop where
  announceable : Announceable part.samples
  short : (utf8 (carrierPath part.carrierMac)).length < 2 ^ 32
  numbered : part.chunk < 2 ^ 32
  fits : (part.blob scale).length ≤ sampleSlotSize
  path : ∃ entity, parsePath (utf8 (carrierPath part.carrierMac)) = .ok entity

/-- A sound part is delivered. -/
theorem DataPart.Sound.deliver {part : DataPart} (sound : part.Sound scale) (sink : SampleSink) :
    SampleDecoding.deliver scale part.sampleType part.message sink =
      .ok { sink with queue := sink.queue ++ [part.blob scale] } :=
  deliver_message scale part.sampleType sound.announceable sound.fits sink

/-- A sound part adds its blob. -/
theorem DataPart.Sound.deliveredBlobs {part : DataPart} (sound : part.Sound scale) :
    Mock.deliveredBlobs scale part.sampleType part.message = [part.blob scale] := by
  simp [Mock.deliveredBlobs, sound.deliver]

/-- The records of sound parts are buffered in the order of their blobs. -/
theorem buffered_parts {parts : List DataPart} (sound : ∀ part ∈ parts, part.Sound scale)
    (buffer : List (String × ChunkRecord UInt64)) :
    ((parts.map (DataPart.blob scale)).foldl (fun buffer blob => bufferSampleBlob blob buffer)
        buffer).map Prod.snd = buffer.map Prod.snd ++ parts.map (DataPart.record scale) := by
  -- Each blob adds its own chunk at the end.
  induction parts generalizing buffer with
  | nil => simp
  | cons part later ih =>
    have here := sound part List.mem_cons_self
    rw [List.map_cons, List.foldl_cons, DataPart.blob,
      buffer_chunkBlob scale part.sampleType here.announceable here.short here.numbered,
      ih fun other member => sound other (List.mem_cons_of_mem _ member)]
    simp [DataPart.record]

end Messages

/-- The states that a run announces, as its error stage lets it. -/
def announcedStates (stage : ErrorStage) : List RunState :=
  -- A device that refuses to start has no run to report about.
  if stage = .atStartRun then []
  else
    unlessDropped stage .dropTakeoffState [.takeOff] ++ [.ic, .op] ++
      if stage = .duringRun then [.error] else .opEnd :: unlessDropped stage .dropDoneState [.done]

/-- The stages that let a run start, take off and come to its end. -/
def Finishes (stage : ErrorStage) : Prop :=
  stage ≠ .atStartRun ∧ stage ≠ .dropTakeoffState ∧ stage ≠ .duringRun ∧ stage ≠ .dropDoneState

/-- A run finishes if it announces its take-off and its end. -/
theorem finishes_iff {stage : ErrorStage} :
    Finishes stage ↔ .takeOff ∈ announcedStates stage ∧ .done ∈ announcedStates stage := by
  cases stage <;> simp [Finishes, announcedStates, unlessDropped]

/-- Only an error during the run is announced as one. -/
theorem error_announced {stage : ErrorStage} : .error ∈ announcedStates stage ↔ stage = .duringRun := by
  cases stage <;> simp [announcedStates, unlessDropped]

/-- The data of a run announces no states. -/
theorem newStates_data {α : Type} (message : α → RunMessage) (data : ∀ a, (message a).newState = none)
    (all : List α) : (all.map message).filterMap RunMessage.newState = [] := by
  simp [List.filterMap_map, data]

/-- The messages of a device announce these states. -/
theorem newStates_messages (device : RunDevice) :
    device.messages.filterMap RunMessage.newState = announcedStates device.stage := by
  obtain ⟨paths, stage, carriers, finals⟩ := device
  have samples := newStates_data RunMessage.runData (fun _ => rfl) (sendSamples stage carriers)
  have values := newStates_data (fun carrier : String × SampleArray =>
    RunMessage.runDataEnd (finalMessage carrier.1 carrier.2)) (fun _ => rfl) finals
  -- The error stage alone decides which state changes there are.
  cases stage <;> simp [RunDevice.messages, RunDevice.Refuses, executeRun, endRun, unlessDropped,
    announcedStates, samples, values, RunMessage.newState]

/-- Where a device announces that it is done, its last message does, and no message before it. -/
theorem messages_done_last (device : RunDevice) (done : .done ∈ announcedStates device.stage) :
    ∃ front last, device.messages = front ++ [last] ∧
      .done ∉ front.filterMap RunMessage.newState := by
  obtain ⟨paths, stage, carriers, finals⟩ := device
  have samples := newStates_data RunMessage.runData (fun _ => rfl) (sendSamples stage carriers)
  have values := newStates_data (fun carrier : String × SampleArray =>
    RunMessage.runDataEnd (finalMessage carrier.1 carrier.2)) (fun _ => rfl) finals
  -- All announcements before the last one, as the device makes them.
  refine ⟨unlessDropped stage .dropTakeoffState [.runStateChange .new .takeOff] ++
    .runStateChange .takeOff .ic :: .runStateChange .ic .op ::
      ((sendSamples stage carriers).map RunMessage.runData ++ .runStateChange .op .opEnd ::
        finals.map fun carrier => .runDataEnd (finalMessage carrier.1 carrier.2)),
    .runStateChange .opEnd .done, ?_, ?_⟩
  · -- The stages that announce no end are excluded; in the others the end is the last message.
    cases stage <;> simp [RunDevice.messages, RunDevice.Refuses, executeRun, endRun, unlessDropped,
      announcedStates] at done ⊢
  · cases stage <;> simp [unlessDropped, samples, values, RunMessage.newState]

/-- The samples that the carriers of all devices send. -/
def allSamples {n : Nat} (devices : Fin n → RunDevice) : List (String × SampleArray) :=
  (List.finRange n).flatMap fun i => sent (devices i).stage (devices i).carriers

/-- The devices of a run: each is tracked and has carriers, whose data can be sent. -/
structure Participate {n : Nat} (devices : Fin n → RunDevice) : Prop where
  some_ : 0 < n
  tracked : ∀ i, (devices i).paths ≠ []
  carriers : ∀ i, (devices i).carriers ≠ []
  sendable : Sendable (allSamples devices)
  /-- There is one final value for each channel. -/
  finals : ∀ i, ∀ final ∈ (devices i).finals, final.2.numSamples = 1 ∧
    ∃ carrier ∈ (devices i).carriers, carrier.1 = final.1 ∧ carrier.2.numChannels = final.2.numChannels

/-- A chunk of a carrier, as a part of the data of a run. -/
def ChunkOf.part (at_ : ChunkOf) : DataPart :=
  ⟨sampleTypeOp, at_.1.1, chunkSamples at_.1.2 at_.2, at_.2⟩

/-- The final values of a carrier, as a part of the data of a run. -/
def finalPart (final : String × SampleArray) : DataPart :=
  ⟨sampleTypeOpEnd, final.1, final.2, 0⟩

/-- The parts of the data that a device sends in a run that it finishes. -/
def RunDevice.parts (device : RunDevice) : List DataPart :=
  (chunksOf (sent device.stage device.carriers)).map ChunkOf.part ++ device.finals.map finalPart

/-- The samples are sent chunk by chunk. -/
theorem sendSamples_chunksOf (stage : ErrorStage) (carriers : List (String × SampleArray)) :
    sendSamples stage carriers = (chunksOf (sent stage carriers)).map fun at_ => at_.part.message := by
  simp only [sendSamples, sent, chunksOf, List.map_flatMap, List.flatMap_map, List.map_map]
  rfl

/-- The chunks of several lists of carriers are those of each of them. -/
theorem chunksOf_flatMap {α : Type} (carriers : α → List (String × SampleArray)) (all : List α) :
    chunksOf (all.flatMap carriers) = all.flatMap fun a => chunksOf (carriers a) := by
  simp only [chunksOf, List.flatMap_assoc]

section Parts

variable {n : Nat} {devices : Fin n → RunDevice} (participate : Participate devices)
  (scale : SampleScale)

include participate in
/-- All parts of a run get through the native queue and are told apart by the client. -/
theorem Participate.sound {i : Fin n} : ∀ part ∈ (devices i).parts, part.Sound scale := by
  intro part member
  rcases List.mem_append.mp member with member | member
  · obtain ⟨at_, listed, rfl⟩ := List.mem_map.mp member
    have among : at_ ∈ chunksOf (allSamples devices) := by
      rw [allSamples, chunksOf_flatMap]
      exact List.mem_flatMap.mpr ⟨i, List.mem_finRange i, listed⟩
    obtain ⟨known, announceable, short, numbered, fits⟩ := participate.sendable.chunk scale among
    exact ⟨announceable, short, numbered, fits, participate.sendable.paths _ known⟩
  · obtain ⟨final, listed, rfl⟩ := List.mem_map.mp member
    obtain ⟨one, carrier, own, mac, channels⟩ := participate.finals i final listed
    have known : (carrier.1, sentSamples (devices i).stage carrier.2) ∈ allSamples devices :=
      List.mem_flatMap.mpr ⟨i, List.mem_finRange i, List.mem_map.mpr ⟨carrier, own, rfl⟩⟩
    have wide := participate.sendable.channels _ known
    have some_ := (participate.sendable.samples _ known).1
    have room := participate.sendable.fits _ known
    have short := participate.sendable.short known
    have path := participate.sendable.paths _ known
    have width : (sentSamples (devices i).stage carrier.2).numChannels = final.2.numChannels := channels
    simp only [width, mac] at wide room short path
    refine ⟨⟨wide, by rw [finalPart, one]; decide⟩, short, by simp [finalPart], ?_, path⟩
    -- The final values take no more room than a chunk of samples.
    refine Nat.le_trans (Nat.le_of_eq (length_chunkBlob scale _ _ _ _)) (Nat.le_trans ?_ room)
    refine Nat.add_le_add_left (Nat.mul_le_mul_right 8 (Nat.mul_le_mul_right _ ?_)) _
    exact one ▸ Nat.le_min.mpr ⟨by decide, some_⟩

include participate in
/-- The messages of a run that the device finishes hold the blobs of its parts. -/
theorem Participate.blobs_messages {i : Fin n} (finishes : Finishes (devices i).stage) :
    (devices i).messages.flatMap (RunMessage.blobs scale) = (devices i).parts.map (DataPart.blob scale) := by
  have sound := participate.sound scale (i := i)
  -- A change of state carries no samples.
  have silent : ∀ dropping old new_, (unlessDropped (devices i).stage dropping
      [RunMessage.runStateChange old new_]).flatMap (RunMessage.blobs scale) = [] := by
    intro dropping old new_
    unfold unlessDropped
    split <;> rfl
  -- Every part of the samples is parsed into its blob.
  have samples : ((sendSamples (devices i).stage (devices i).carriers).map RunMessage.runData).flatMap
      (RunMessage.blobs scale) = ((chunksOf (sent (devices i).stage (devices i).carriers)).map
        ChunkOf.part).map (DataPart.blob scale) := by
    rw [sendSamples_chunksOf, List.map_map, List.flatMap_map, List.map_map, List.map_eq_flatMap]
    exact List.flatMap_congr fun at_ listed =>
      (sound at_.part (List.mem_append_left _ (List.mem_map_of_mem listed))).deliveredBlobs scale
  -- And so is every final value.
  have values : ((devices i).finals.map fun carrier =>
      RunMessage.runDataEnd (finalMessage carrier.1 carrier.2)).flatMap (RunMessage.blobs scale) =
        ((devices i).finals.map finalPart).map (DataPart.blob scale) := by
    rw [List.flatMap_map, List.map_map, List.map_eq_flatMap]
    exact List.flatMap_congr fun final listed =>
      (sound (finalPart final) (List.mem_append_right _ (List.mem_map_of_mem listed))).deliveredBlobs scale
  have started : ¬(devices i).Refuses := finishes.1
  rw [RunDevice.messages, if_neg started, executeRun, endRun, if_neg finishes.2.2.1,
    RunDevice.parts, List.map_append]
  simp only [List.flatMap_append, List.flatMap_cons, silent, samples, values, RunMessage.blobs,
    List.nil_append, List.append_nil]

include participate in
/-- What the parts of all devices are assembled to, in whatever order their blobs were drained. -/
theorem Participate.assembled {drained : List (Fin n × List UInt8)}
    (finish : ∀ i, Finishes (devices i).stage)
    (all : ∀ i, Merge.of i drained = (devices i).messages.flatMap (RunMessage.blobs scale))
    (clustersPerCarrier : List (List (List UInt8) × Nat)) :
    ∃ (order : List (String × SampleArray)) (final : RunData UInt64), order.Perm (allSamples devices) ∧
      assembleRunData clustersPerCarrier (((drained.map Prod.snd).foldl
        (fun buffer blob => bufferSampleBlob blob buffer) []).map Prod.snd) .empty = .ok () final ∧
      final.data = (List.range (maxChannels order)).map fun channel =>
        some (channelData scale order channel) := by
  have blobs : (drained.map Prod.snd).Perm
      (((List.finRange n).flatMap fun i => (devices i).parts).map (DataPart.blob scale)) := by
    refine (Merge.perm_sources (List.nodup_finRange n) fun entry _ => List.mem_finRange entry.1).trans ?_
    rw [List.map_flatMap]
    refine List.Perm.of_eq (List.flatMap_congr fun i _ => ?_)
    rw [all, participate.blobs_messages scale (finish i)]
  obtain ⟨parts, moved, drained'⟩ := Rows.exists_perm_map blobs
  have sound : ∀ part ∈ parts, part.Sound scale := by
    intro part listed
    obtain ⟨i, _, member⟩ := List.mem_flatMap.mp (moved.mem_iff.mp listed)
    exact participate.sound scale part member
  rw [drained', buffered_parts scale sound, List.map_nil, List.nil_append]
  -- Of the records of all parts, those of the samples are kept for the data.
  have records : (opChunks (parts.map (DataPart.record scale))).Perm
      ((allSamples devices).flatMap (carrierRecords scale)) := by
    refine ((moved.map _).filter _).trans (List.Perm.of_eq ?_)
    rw [← records_chunksOf, allSamples, chunksOf_flatMap, List.map_flatMap, List.filter_flatMap,
      List.map_flatMap]
    refine List.flatMap_congr fun i _ => ?_
    rw [RunDevice.parts, List.map_append, List.filter_append]
    have samples : (((chunksOf (sent (devices i).stage (devices i).carriers)).map ChunkOf.part).map
        (DataPart.record scale)).filter (fun chunk => chunk.sampleType = sampleTypeOp.toNat) =
          (chunksOf (sent (devices i).stage (devices i).carriers)).map (ChunkOf.record scale) := by
      rw [List.map_map]
      refine List.filter_eq_self.mpr fun record member => ?_
      obtain ⟨at_, _, rfl⟩ := List.mem_map.mp member
      rfl
    have values : (((devices i).finals.map finalPart).map (DataPart.record scale)).filter
        (fun chunk => chunk.sampleType = sampleTypeOp.toNat) = [] := by
      refine List.filter_eq_nil_iff.mpr fun record member => ?_
      simp only [List.map_map, List.mem_map] at member
      obtain ⟨final, _, rfl⟩ := member
      simp [finalPart, DataPart.record, chunkRecord, sampleTypeOp, sampleTypeOpEnd]
    rw [samples, values, List.append_nil]
  have paths : ∀ chunk ∈ parts.map (DataPart.record scale),
      ∃ entity, parsePath chunk.entityPath = .ok entity := by
    intro chunk member
    obtain ⟨part, listed, rfl⟩ := List.mem_map.mp member
    exact (sound part listed).path
  have some_ : allSamples devices ≠ [] := by
    obtain ⟨carrier, own⟩ := List.exists_mem_of_ne_nil _ (participate.carriers ⟨0, participate.some_⟩)
    exact List.ne_nil_of_mem (List.mem_flatMap.mpr ⟨_, List.mem_finRange _, List.mem_map_of_mem own⟩)
  exact participate.sendable.assembled scale some_ records paths clustersPerCarrier .empty

end Parts

end Pybrid.Mock
