import Pybrid.Redac.Signals
import Pybrid.Native.SampleDecoding

/-! Sample blobs as the client parses them, and the run data it assembles of their chunks. -/

namespace Pybrid.Client

/-- A single decoded sample chunk with metadata; nothing looks into its samples. -/
structure ChunkRecord (S : Type) where
  chunkNumber : Nat
  /-- The entity path in UTF-8. -/
  entityPath : List UInt8
  sampleType : Nat
  channelCount : Nat
  /-- The samples, channel by channel. -/
  samples : List (List S)
  /-- The probe index of each channel, if the blob has them. -/
  probeIndices : Option (List Nat)

/-- The unsigned number in these bytes, least significant first; bytes behind the end count zero. -/
def readLittleEndian (blob : List UInt8) (offset width : Nat) : Nat :=
  ((List.range width).map fun i => (blob.getD (offset + i) 0).toNat * 256 ^ i).sum

/-- Parse a single decoded sample blob; what cannot be parsed is ignored. -/
def parseSampleBlob (blob : List UInt8) : Option (ChunkRecord UInt64) :=
  if blob.length < SampleDecoding.headerSize then none
  else
    let word (offset : Nat) := readLittleEndian blob offset 4
    let entityPathLen := word 0
    let sampleCount := word 4
    let channelCount := word 8
    let hasProbes := word 20 ≠ 0
    if channelCount = 0 ∨ sampleCount = 0 then none
    else
      let pathEnd := SampleDecoding.headerSize + entityPathLen
      let probeEnd := if hasProbes then pathEnd + channelCount * 4 else pathEnd
      let dataOffset := SampleDecoding.alignUpToDouble probeEnd
      -- Reading behind the end of the blob raises, and the caller drops the blob.
      if blob.length < probeEnd ∨ blob.length < dataOffset + sampleCount * channelCount * 8 then none
      else
        some {
          chunkNumber := word 16
          entityPath := (blob.drop SampleDecoding.headerSize).take entityPathLen
          sampleType := word 12
          channelCount
          samples := (List.range channelCount).map fun channel =>
            (List.range sampleCount).map fun sample =>
              (readLittleEndian blob (dataOffset + (sample * channelCount + channel) * 8) 8).toUInt64
          probeIndices :=
            if hasProbes then some ((List.range channelCount).map fun i => word (pathEnd + 4 * i))
            else none }

/-- The place of a value sampled at the end of a run: block output by block output. -/
structure FinalPlace where
  entity : List (List UInt8)
  cluster : Nat
  block : Nat
  output : Nat
  deriving DecidableEq, Repr

/-- The data and the final values of a run. -/
structure RunData (S : Type) where
  /-- Captured samples by probe index. -/
  data : List (Option (List S))
  /-- Values at the end of the run; a later entry overrides an earlier one of the same place. -/
  finalValues : List (FinalPlace × S)

/-- The data of a run that has none. -/
def RunData.empty {S : Type} : RunData S := ⟨[], []⟩

namespace SampleAssembly

/-- The parts of an entity path, without slashes at either end. -/
def pathParts (path : List UInt8) : List (List UInt8) :=
  let stripped := Numerals.strip (· = 47) path
  if stripped = [] then [] else stripped.splitOn 47

/-- Parse an entity path; it has at most four parts, and the last of them is a number. -/
def parsePath (path : List UInt8) : Except Raised (List (List UInt8)) :=
  let parts := pathParts path
  if 4 < parts.length then .error ⟨.indexError, "tuple index out of range"⟩
  else
    match parts[3]? with
    | none => .ok parts
    | some function => (Python.int function).map fun _ => parts

variable {S : Type} (clustersPerCarrier : List (List (List UInt8) × Nat))

/-- What groups chunks: the entity and the sample type. -/
def groupKey (chunk : ChunkRecord S) : List UInt8 × Nat := (chunk.entityPath, chunk.sampleType)

/-- The chunks in groups, in the order their keys first appear. -/
def groups (chunks : List (ChunkRecord S)) : List (List (ChunkRecord S)) :=
  ((chunks.map groupKey).reverse.dedup.reverse).map fun key =>
    chunks.filter fun chunk => groupKey chunk = key

/-- A group in the order of its chunk numbers; equal numbers stay as they came. -/
def sortChunks (group : List (ChunkRecord S)) : List (ChunkRecord S) :=
  group.insertionSort fun left right => left.chunkNumber ≤ right.chunkNumber

/-- One channel of a chunk. -/
def channelOf (channel : Nat) (chunk : ChunkRecord S) : Except Raised (List S) :=
  match chunk.samples[channel]? with
  | some samples => .ok samples
  | none => .error ⟨.indexError, "index is out of bounds"⟩

/-- One channel of all chunks of a group, and the probe it belongs to in the first chunk. -/
def probeSamples (first : ChunkRecord S) (sorted : List (ChunkRecord S)) (channel : Nat) :
    Except Raised (Nat × List S) :=
  match first.probeIndices with
  | none => .error ⟨.exception, "Probe index is not set!"⟩
  | some indices =>
    match indices[channel]? with
    | none => .error ⟨.indexError, "tuple index out of range"⟩
    | some probe => do
      let channels ← sorted.mapM (channelOf channel)
      return (probe, channels.flatten)

/-- The final values in a chunk, for as many blocks as the carrier has. -/
def finalValuesOf (entity : List (List UInt8)) (chunk : ChunkRecord S) : List (FinalPlace × S) :=
  let numClusters := (clustersPerCarrier.lookup (entity.take 1)).getD 3
  let flat := chunk.samples.flatten
  (List.range (numClusters * 2)).flatMap fun block =>
    (List.range 8).filterMap fun output =>
      (flat[block * 8 + output]?).map fun value => (⟨entity, block / 2, block % 2, output⟩, value)

/-- Add a group to the samples by probe, or to the final values of the run. -/
def assembleGroup (sorted : List (ChunkRecord S)) (probes : List (Nat × List S)) :
    EStateM Raised (RunData S) (List (Nat × List S)) := fun run =>
  match sorted with
  | [] => .ok probes run
  | first :: _ =>
    match parsePath first.entityPath with
    | .error raised => .error raised run
    | .ok entity =>
      if first.sampleType = SampleDecoding.sampleTypeOp.toNat then
        match (List.range first.channelCount).mapM (probeSamples first sorted) with
        | .error raised => .error raised run
        | .ok more => .ok (probes ++ more) run
      else if first.sampleType = SampleDecoding.sampleTypeOpEnd.toNat then
        let last := sorted.getLast?.getD first
        .ok probes
          { run with finalValues := run.finalValues ++ finalValuesOf clustersPerCarrier entity last }
      else .ok probes run

/-- Add the groups one after the other. -/
def assembleGroups : List (List (ChunkRecord S)) → List (Nat × List S) →
    EStateM Raised (RunData S) (List (Nat × List S))
  | [], probes => pure probes
  | group :: later, probes => do
    let probes ← assembleGroup clustersPerCarrier (sortChunks group) probes
    assembleGroups later probes

/-- The samples of each probe in one list up to the highest probe. -/
def dataByProbe (probes : List (Nat × List S)) : List (Option (List S)) :=
  (List.range ((probes.map Prod.fst).foldl max 0 + 1)).map fun probe =>
    if probe ∈ probes.map Prod.fst then
      some ((probes.filter fun entry => entry.1 = probe).flatMap Prod.snd)
    else none

end SampleAssembly

open SampleAssembly in
/-- Sort and assemble buffered chunks into the data and the final values of a run. -/
def assembleRunData {S : Type} (clustersPerCarrier : List (List (List UInt8) × Nat))
    (chunks : List (ChunkRecord S)) : EStateM Raised (RunData S) Unit :=
  if chunks.isEmpty then pure ()
  else do
    let probes ← assembleGroups clustersPerCarrier (groups chunks) []
    if !probes.isEmpty then modify fun run => { run with data := dataByProbe probes }

/-- All samples of a chunk are of this kind. -/
def ChunkRecord.All {S : Type} (kind : S → Prop) (chunk : ChunkRecord S) : Prop :=
  ∀ channel ∈ chunk.samples, ∀ sample ∈ channel, kind sample

/-- All samples in the data and all final values of a run are of this kind. -/
structure RunData.All {S : Type} (kind : S → Prop) (run : RunData S) : Prop where
  data : ∀ entry ∈ run.data, ∀ samples ∈ entry, ∀ sample ∈ samples, kind sample
  finalValues : ∀ entry ∈ run.finalValues, kind entry.2

namespace SampleAssembly

variable {S : Type} {kind : S → Prop} (clustersPerCarrier : List (List (List UInt8) × Nat))

/-- What a successful traversal collects comes from an element. -/
theorem mem_of_mapM_ok {α β : Type} {f : α → Except Raised β} {all : List α} {collected : List β}
    (ran : all.mapM f = .ok collected) {b : β} (member : b ∈ collected) :
    ∃ a ∈ all, f a = .ok b := by
  -- The induction is on the elements still to be traversed.
  induction all generalizing collected with
  | nil =>
    cases ran
    cases member
  | cons a later ih =>
    rw [List.mapM_cons] at ran
    cases one : f a with
    | error raised => simp [one, bind, Except.bind] at ran
    | ok b' =>
      cases rest : later.mapM f with
      | error raised => simp [one, rest, bind, Except.bind] at ran
      | ok others =>
        simp only [one, rest, bind, Except.bind, pure, Except.pure, Except.ok.injEq] at ran
        subst ran
        rcases List.mem_cons.mp member with rfl | member
        · exact ⟨a, List.mem_cons_self .., one⟩
        · obtain ⟨a', inside, found⟩ := ih rest member
          exact ⟨a', List.mem_cons_of_mem a inside, found⟩

/-- The samples of one channel are samples of its chunks. -/
theorem probeSamples_all {first : ChunkRecord S} {sorted : List (ChunkRecord S)} {channel : Nat}
    {entry : Nat × List S} (all : ∀ chunk ∈ sorted, chunk.All kind)
    (found : probeSamples first sorted channel = .ok entry) : ∀ sample ∈ entry.2, kind sample := by
  unfold probeSamples at found
  cases indices : first.probeIndices with
  | none => simp [indices] at found
  | some indices' =>
    simp only [indices] at found
    cases probe : indices'[channel]? with
    | none => simp [probe] at found
    | some probe' =>
      simp only [probe] at found
      cases collected : sorted.mapM (channelOf channel) with
      | error raised => simp [collected, bind, Except.bind] at found
      | ok channels =>
        simp only [collected, bind, Except.bind, pure, Except.pure, Except.ok.injEq] at found
        subst found
        intro sample member
        obtain ⟨row, inside, member⟩ := List.mem_flatten.mp member
        -- Each collected row is a channel of one of the chunks.
        obtain ⟨chunk, listed, belongs⟩ := mem_of_mapM_ok collected inside
        unfold channelOf at belongs
        cases rows : chunk.samples[channel]? with
        | none => simp [rows] at belongs
        | some row' =>
          simp only [rows, Except.ok.injEq] at belongs
          subst belongs
          exact all chunk listed row' (List.mem_of_getElem? rows) sample member

/-- The final values in a chunk are samples of it. -/
theorem finalValuesOf_all {entity : List (List UInt8)} {chunk : ChunkRecord S}
    (all : chunk.All kind) : ∀ entry ∈ finalValuesOf clustersPerCarrier entity chunk, kind entry.2 := by
  intro entry member
  simp only [finalValuesOf, List.mem_flatMap, List.mem_filterMap, Option.map_eq_some_iff] at member
  obtain ⟨block, _, output, _, value, found, rfl⟩ := member
  obtain ⟨channel, inside, belongs⟩ := List.mem_flatten.mp (List.mem_of_getElem? found)
  exact all channel inside value belongs

/-- The samples collected by probe are of this kind. -/
def ProbesAll (kind : S → Prop) (probes : List (Nat × List S)) : Prop :=
  ∀ entry ∈ probes, ∀ sample ∈ entry.2, kind sample

/-- A group adds samples of its chunks. -/
theorem assembleGroup_all {sorted : List (ChunkRecord S)} {probes : List (Nat × List S)}
    {run : RunData S} (all : ∀ chunk ∈ sorted, chunk.All kind) (before : ProbesAll kind probes)
    (held : run.All kind) :
    match assembleGroup clustersPerCarrier sorted probes run with
    | .ok more after => ProbesAll kind more ∧ after.All kind
    | .error _ after => after.All kind := by
  unfold assembleGroup
  cases sorted with
  | nil => exact ⟨before, held⟩
  | cons first later =>
    simp only
    cases parsePath first.entityPath with
    | error raised => exact held
    | ok entity =>
      simp only
      by_cases op : first.sampleType = SampleDecoding.sampleTypeOp.toNat
      · rw [if_pos op]
        cases collected : (List.range first.channelCount).mapM
            (probeSamples first (first :: later)) with
        | error raised => exact held
        | ok more =>
          refine ⟨fun entry member => ?_, held⟩
          rcases List.mem_append.mp member with old | new
          · exact before entry old
          · obtain ⟨channel, _, found⟩ := mem_of_mapM_ok collected new
            exact probeSamples_all all found
      · rw [if_neg op]
        by_cases opEnd : first.sampleType = SampleDecoding.sampleTypeOpEnd.toNat
        · rw [if_pos opEnd]
          -- The last chunk of the group is one of its chunks.
          have last : ((first :: later).getLast?.getD first).All kind := by
            rw [List.getLast?_eq_some_getLast (List.cons_ne_nil first later)]
            exact all _ (List.getLast_mem _)
          refine ⟨before, held.data, fun entry member => ?_⟩
          rcases List.mem_append.mp member with old | new
          · exact held.finalValues entry old
          · exact finalValuesOf_all clustersPerCarrier last entry new
        · rw [if_neg opEnd]
          exact ⟨before, held⟩

/-- The groups add samples of their chunks. -/
theorem assembleGroups_all {groups : List (List (ChunkRecord S))} {probes : List (Nat × List S)}
    {run : RunData S} (all : ∀ group ∈ groups, ∀ chunk ∈ group, chunk.All kind)
    (before : ProbesAll kind probes) (held : run.All kind) :
    match assembleGroups clustersPerCarrier groups probes run with
    | .ok more after => ProbesAll kind more ∧ after.All kind
    | .error _ after => after.All kind := by
  -- The induction is on the groups still to be added.
  induction groups generalizing probes run with
  | nil => exact ⟨before, held⟩
  | cons group later ih =>
    have sorted : ∀ chunk ∈ sortChunks group, chunk.All kind := fun chunk member =>
      all group (List.mem_cons_self ..) chunk ((List.mem_insertionSort _).mp member)
    have one := assembleGroup_all clustersPerCarrier sorted before held
    unfold assembleGroups
    cases added : assembleGroup clustersPerCarrier (sortChunks group) probes run with
    | error raised after =>
      rw [added] at one
      rw [Raising.bind_of_error added]
      exact one
    | ok more after =>
      rw [added] at one
      rw [Raising.bind_of_ok added]
      exact ih (fun group member => all group (List.mem_cons_of_mem _ member)) one.1 one.2

/-- The lists by probe hold the samples that were collected. -/
theorem dataByProbe_all {probes : List (Nat × List S)} (all : ProbesAll kind probes) :
    ∀ entry ∈ dataByProbe probes, ∀ samples ∈ entry, ∀ sample ∈ samples, kind sample := by
  intro entry member samples present sample inside
  obtain ⟨probe, _, rfl⟩ := List.mem_map.mp member
  by_cases listed : probe ∈ probes.map Prod.fst
  · rw [if_pos listed] at present
    obtain rfl := Option.mem_some_iff.mp present
    obtain ⟨found, filtered, belongs⟩ := List.mem_flatMap.mp inside
    exact all found (List.mem_of_mem_filter filtered) sample belongs
  · rw [if_neg listed] at present
    cases present

end SampleAssembly

open SampleAssembly in
/-- All that is assembled into a run are samples of the chunks, however the assembly ends. -/
theorem assembleRunData_all {S : Type} {kind : S → Prop}
    (clustersPerCarrier : List (List (List UInt8) × Nat)) {chunks : List (ChunkRecord S)}
    {run : RunData S} (all : ∀ chunk ∈ chunks, chunk.All kind) (held : run.All kind) :
    (Raising.final (assembleRunData clustersPerCarrier chunks run)).All kind := by
  unfold assembleRunData
  by_cases none_ : chunks.isEmpty = true
  · rw [if_pos none_]
    exact held
  · rw [if_neg none_]
    have grouped : ∀ group ∈ groups chunks, ∀ chunk ∈ group, chunk.All kind := by
      intro group member chunk inside
      obtain ⟨key, _, rfl⟩ := List.mem_map.mp member
      exact all chunk (List.mem_of_mem_filter inside)
    have every := assembleGroups_all clustersPerCarrier grouped
      (show ProbesAll kind [] from fun entry member => by cases member) held
    cases added : assembleGroups clustersPerCarrier (groups chunks) [] run with
    | error raised after =>
      rw [added] at every
      rw [Raising.bind_of_error added]
      exact every
    | ok probes after =>
      rw [added] at every
      rw [Raising.bind_of_ok added]
      by_cases some_ : (!probes.isEmpty) = true
      · rw [if_pos some_]
        exact ⟨dataByProbe_all every.1, every.2.finalValues⟩
      · rw [if_neg some_]
        exact every.2

end Pybrid.Client
