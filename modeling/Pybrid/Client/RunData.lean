import Pybrid.Client.SampleAssembly

/-! What the data of a run holds: per probe, the samples of its channel in the order of the chunks. -/

namespace Pybrid.Client.SampleAssembly

variable {S : Type}

/-- The probes of a chunk, channel by channel. -/
def probesOf (chunk : ChunkRecord S) : List Nat := chunk.probeIndices.getD []

/-- The samples of one channel of a chunk. -/
def channelSamples (channel : Nat) (chunk : ChunkRecord S) : List S := chunk.samples.getD channel []

/-- The chunks of one entity and type, as they came. -/
def groupOf (chunks : List (ChunkRecord S)) (key : List UInt8 × Nat) : List (ChunkRecord S) :=
  chunks.filter fun chunk => groupKey chunk = key

/-- A chunk as its attributes describe it: of an entity, with rows and probes for its channels. -/
structure WellFormed (chunk : ChunkRecord S) : Prop where
  path : ∃ entity, parsePath chunk.entityPath = .ok entity
  rows : chunk.samples.length = chunk.channelCount
  probes : ∃ probes, chunk.probeIndices = some probes ∧ probes.length = chunk.channelCount

/-- Chunks sampled during one run, whose groups agree on their channels and share no probe. -/
structure Sampled (chunks : List (ChunkRecord S)) : Prop where
  wellFormed : ∀ chunk ∈ chunks, WellFormed chunk
  op : ∀ chunk ∈ chunks, chunk.sampleType = SampleDecoding.sampleTypeOp.toNat
  -- A group is ordered by the numbers of its chunks.
  numbered : chunks.Pairwise fun chunk other =>
    groupKey chunk = groupKey other → chunk.chunkNumber ≠ other.chunkNumber
  -- The first chunk of a group speaks for all of it.
  alike : ∀ chunk ∈ chunks, ∀ other ∈ chunks, groupKey chunk = groupKey other →
    chunk.channelCount = other.channelCount ∧ chunk.probeIndices = other.probeIndices
  distinct : ∀ chunk ∈ chunks, (probesOf chunk).Nodup
  -- Otherwise two groups would write under one probe.
  disjoint : ∀ chunk ∈ chunks, ∀ other ∈ chunks, groupKey chunk ≠ groupKey other →
    (probesOf chunk).Disjoint (probesOf other)

/-- Chunks sampled during one run, whose groups agree on their channels. -/
structure Alike (chunks : List (ChunkRecord S)) : Prop where
  wellFormed : ∀ chunk ∈ chunks, WellFormed chunk
  op : ∀ chunk ∈ chunks, chunk.sampleType = SampleDecoding.sampleTypeOp.toNat
  alike : ∀ chunk ∈ chunks, ∀ other ∈ chunks, groupKey chunk = groupKey other →
    chunk.channelCount = other.channelCount ∧ chunk.probeIndices = other.probeIndices

/-- What a group contributes: per channel its probe, and its samples in all chunks. -/
def groupEntries : List (ChunkRecord S) → List (Nat × List S)
  | [] => []
  | first :: later => (List.range first.channelCount).map fun channel =>
    ((probesOf first).getD channel 0, (first :: later).flatMap (channelSamples channel))

/-- What all groups contribute, in the order their keys first appear. -/
def allEntries (chunks : List (ChunkRecord S)) : List (Nat × List S) :=
  ((chunks.map groupKey).reverse.dedup.reverse).flatMap fun key =>
    groupEntries (sortChunks (groupOf chunks key))

variable {chunks others : List (ChunkRecord S)}

/-- Chunks that can be told apart agree within their groups. -/
theorem Sampled.toAlike (sampled : Sampled chunks) : Alike chunks :=
  ⟨sampled.wellFormed, sampled.op, sampled.alike⟩

/-- The order the chunks come in does not matter to what is asked of them. -/
theorem Sampled.perm (sampled : Sampled chunks) (perm : chunks.Perm others) : Sampled others := by
  have listed : ∀ {chunk}, chunk ∈ others → chunk ∈ chunks := fun member => perm.mem_iff.mpr member
  refine ⟨?_, ?_, ?_, ?_, ?_, ?_⟩
  · exact fun chunk member => sampled.wellFormed chunk (listed member)
  · exact fun chunk member => sampled.op chunk (listed member)
  · -- Differing in number is symmetric, so it holds of a pair in either order.
    refine sampled.numbered.perm perm ?_
    intro chunk other apart same
    exact (apart same.symm).symm
  · exact fun chunk member other member' => sampled.alike chunk (listed member) other (listed member')
  · exact fun chunk member => sampled.distinct chunk (listed member)
  · exact fun chunk member other member' =>
      sampled.disjoint chunk (listed member) other (listed member')

/-- A sorted group holds the chunks of the group. -/
theorem mem_sortChunks {group : List (ChunkRecord S)} {chunk : ChunkRecord S} :
    chunk ∈ sortChunks group ↔ chunk ∈ group :=
  List.mem_insertionSort _

/-- A chunk lies in the group of its key. -/
theorem mem_groupOf {chunk : ChunkRecord S} {key : List UInt8 × Nat} :
    chunk ∈ groupOf chunks key ↔ chunk ∈ chunks ∧ groupKey chunk = key := by
  simp [groupOf]

/-- A sorted group has strictly increasing chunk numbers. -/
theorem Sampled.sorted (sampled : Sampled chunks) (key : List UInt8 × Nat) :
    (sortChunks (groupOf chunks key)).Pairwise fun chunk other =>
      chunk.chunkNumber < other.chunkNumber := by
  have ordered : (sortChunks (groupOf chunks key)).Pairwise fun chunk other =>
      chunk.chunkNumber ≤ other.chunkNumber := by
    have : Std.Total fun chunk other : ChunkRecord S => chunk.chunkNumber ≤ other.chunkNumber :=
      ⟨fun chunk other => Nat.le_total _ _⟩
    have : IsTrans (ChunkRecord S) fun chunk other => chunk.chunkNumber ≤ other.chunkNumber :=
      ⟨fun _ _ _ => Nat.le_trans⟩
    exact List.pairwise_insertionSort _ _
  have apart : (sortChunks (groupOf chunks key)).Pairwise fun chunk other =>
      groupKey chunk = groupKey other → chunk.chunkNumber ≠ other.chunkNumber := by
    have group := sampled.numbered.filter fun chunk => decide (groupKey chunk = key)
    refine group.perm (List.perm_insertionSort _ _).symm ?_
    intro chunk other apart same
    exact (apart same.symm).symm
  -- Inside the group all keys agree, so no two numbers are equal.
  refine (ordered.and apart).imp_of_mem ?_
  intro chunk other member member' both
  have same := (mem_groupOf.mp (mem_sortChunks.mp member)).2
  have same' := (mem_groupOf.mp (mem_sortChunks.mp member')).2
  exact lt_of_le_of_ne both.1 (both.2 (same.trans same'.symm))

/-- A sorted group is the same in whatever order the chunks have come. -/
theorem Sampled.sorted_perm (sampled : Sampled chunks) (perm : chunks.Perm others)
    (key : List UInt8 × Nat) :
    sortChunks (groupOf chunks key) = sortChunks (groupOf others key) := by
  -- Two sorted lists with the same elements are equal if no two are of equal rank.
  have rearranged : (sortChunks (groupOf chunks key)).Perm (sortChunks (groupOf others key)) :=
    (List.perm_insertionSort _ _).trans
      ((perm.filter _).trans (List.perm_insertionSort _ _).symm)
  refine List.Perm.eq_of_pairwise ?_ (sampled.sorted key) ((sampled.perm perm).sorted key) rearranged
  intro chunk other _ _ below above
  exact absurd (below.trans above) (lt_irrefl _)

/-- Each channel of a well-formed group is collected under its probe. -/
theorem probeSamples_returns {first : ChunkRecord S} {sorted : List (ChunkRecord S)}
    (formed : WellFormed first) (rows : ∀ chunk ∈ sorted, chunk.samples.length = first.channelCount)
    {channel : Nat} (inside : channel < first.channelCount) :
    probeSamples first sorted channel =
      .ok ((probesOf first).getD channel 0, sorted.flatMap (channelSamples channel)) := by
  obtain ⟨probes, present, length⟩ := formed.probes
  have probe : probes[channel]? = some (probes.getD channel 0) := by
    rw [List.getElem?_eq_getElem (by omega), List.getD_eq_getElem _ _ (by omega)]
  -- No row is missing, so every chunk gives its row of the channel.
  have collected : sorted.mapM (channelOf channel) = .ok (sorted.map (channelSamples channel)) := by
    refine Raising.mapM_eq_ok.mpr (List.forall₂_map_right_iff.mpr ?_)
    refine List.forall₂_same.mpr fun chunk member => ?_
    have row : channel < chunk.samples.length := by rw [rows chunk member]; exact inside
    simp only [channelOf, List.getElem?_eq_getElem row, channelSamples,
      List.getD_eq_getElem _ _ row]
  unfold probeSamples
  rw [present]
  simp only [probe, collected, probesOf, present, Option.getD_some]
  rfl

/-- A sorted group adds its entries and leaves the run alone. -/
theorem assembleGroup_returns (clustersPerCarrier : List (List (List UInt8) × Nat))
    {sorted : List (ChunkRecord S)} (formed : ∀ chunk ∈ sorted, WellFormed chunk)
    (op : ∀ chunk ∈ sorted, chunk.sampleType = SampleDecoding.sampleTypeOp.toNat)
    (counts : ∀ chunk ∈ sorted, ∀ other ∈ sorted, chunk.channelCount = other.channelCount)
    (probes : List (Nat × List S)) (run : RunData S) :
    assembleGroup clustersPerCarrier sorted probes run = .ok (probes ++ groupEntries sorted) run := by
  -- The first chunk gives the path, the type and the number of channels.
  cases sorted with
  | nil => simp [assembleGroup, groupEntries]
  | cons first later =>
    have head := List.mem_cons_self (a := first) (l := later)
    obtain ⟨entity, parsed⟩ := (formed first head).path
    have rows : ∀ chunk ∈ first :: later, chunk.samples.length = first.channelCount := by
      intro chunk member
      rw [(formed chunk member).rows, counts chunk member first head]
    -- Every channel is collected, as no chunk has too few rows.
    have collected : (List.range first.channelCount).mapM (probeSamples first (first :: later)) =
        .ok (groupEntries (first :: later)) := by
      refine Raising.mapM_eq_ok.mpr (List.forall₂_map_right_iff.mpr ?_)
      refine List.forall₂_same.mpr fun channel member => ?_
      exact probeSamples_returns (formed first head) rows (List.mem_range.mp member)
    simp only [assembleGroup, parsed, op first head, if_true, collected]

/-- All groups add their entries, one after the other. -/
theorem assembleGroups_returns (clustersPerCarrier : List (List (List UInt8) × Nat))
    (run : RunData S) : ∀ {groups : List (List (ChunkRecord S))} (probes : List (Nat × List S)),
      (∀ group ∈ groups, (∀ chunk ∈ group, WellFormed chunk) ∧
        (∀ chunk ∈ group, chunk.sampleType = SampleDecoding.sampleTypeOp.toNat) ∧
        ∀ chunk ∈ group, ∀ other ∈ group, chunk.channelCount = other.channelCount) →
      assembleGroups clustersPerCarrier groups probes run =
        .ok (probes ++ groups.flatMap fun group => groupEntries (sortChunks group)) run := by
  intro groups
  -- The induction is on the groups still to be added.
  induction groups with
  | nil =>
    intro probes _
    simp only [assembleGroups, List.flatMap_nil, List.append_nil]
    rfl
  | cons group later ih =>
    intro probes each
    obtain ⟨formed, op, counts⟩ := each group List.mem_cons_self
    have added := assembleGroup_returns clustersPerCarrier
      (fun chunk member => formed chunk (mem_sortChunks.mp member))
      (fun chunk member => op chunk (mem_sortChunks.mp member))
      (fun chunk member other member' =>
        counts chunk (mem_sortChunks.mp member) other (mem_sortChunks.mp member')) probes run
    unfold assembleGroups
    rw [Raising.bind_of_ok added, ih _ fun other member => each other (List.mem_cons_of_mem _ member),
      List.flatMap_cons, List.append_assoc]

/-- The assembly of sampled chunks stores the entries of all groups by probe. -/
theorem Sampled.assembled (sampled : Sampled chunks)
    (clustersPerCarrier : List (List (List UInt8) × Nat)) (run : RunData S) :
    assembleRunData clustersPerCarrier chunks run =
      .ok () (if allEntries chunks = [] then run
        else { run with data := dataByProbe (allEntries chunks) }) := by
  -- Without a chunk the function returns at once.
  by_cases empty : chunks = []
  · subst empty
    rfl
  have grouped : ∀ group ∈ groups chunks, (∀ chunk ∈ group, WellFormed chunk) ∧
      (∀ chunk ∈ group, chunk.sampleType = SampleDecoding.sampleTypeOp.toNat) ∧
      ∀ chunk ∈ group, ∀ other ∈ group, chunk.channelCount = other.channelCount := by
    intro group member
    obtain ⟨key, -, rfl⟩ := List.mem_map.mp member
    have inside : ∀ chunk ∈ groupOf chunks key, chunk ∈ chunks ∧ groupKey chunk = key :=
      fun chunk => mem_groupOf.mp
    refine ⟨fun chunk member => sampled.wellFormed chunk (inside chunk member).1,
      fun chunk member => sampled.op chunk (inside chunk member).1, ?_⟩
    intro chunk member other member'
    obtain ⟨listed, same⟩ := inside chunk member
    obtain ⟨listed', same'⟩ := inside other member'
    exact (sampled.alike chunk listed other listed' (same.trans same'.symm)).1
  have added := assembleGroups_returns clustersPerCarrier run [] grouped
  rw [show ([] : List (Nat × List S)) ++ (groups chunks).flatMap
      (fun group => groupEntries (sortChunks group)) = allEntries chunks by
    simp only [List.nil_append, groups, List.flatMap_map]
    rfl] at added
  unfold assembleRunData
  rw [if_neg (by simpa using empty), Raising.bind_of_ok added]
  -- The data are replaced only if some probe was found.
  by_cases none_ : allEntries chunks = []
  · simp only [none_, List.isEmpty_nil, Bool.not_true, Bool.false_eq_true, if_false, if_true]
    rfl
  · have filled : (!(allEntries chunks).isEmpty) = true := by simpa using none_
    rw [if_pos filled, if_neg none_]
    rfl

/-- The keys of the groups, each once. -/
theorem mem_keys {key : List UInt8 × Nat} :
    key ∈ (chunks.map groupKey).reverse.dedup.reverse ↔ ∃ chunk ∈ chunks, groupKey chunk = key := by
  simp

/-- The first chunk of a sorted group speaks for all of them. -/
theorem Alike.head (sampled : Alike chunks) {chunk : ChunkRecord S} (listed : chunk ∈ chunks) :
    ∃ first later, sortChunks (groupOf chunks (groupKey chunk)) = first :: later ∧
      first ∈ chunks ∧ groupKey first = groupKey chunk ∧
      first.channelCount = chunk.channelCount ∧ probesOf first = probesOf chunk := by
  have member : chunk ∈ sortChunks (groupOf chunks (groupKey chunk)) :=
    mem_sortChunks.mpr (mem_groupOf.mpr ⟨listed, rfl⟩)
  obtain ⟨first, later, split⟩ := List.exists_cons_of_ne_nil (List.ne_nil_of_mem member)
  -- The first chunk after sorting is one of the group.
  have head : first ∈ sortChunks (groupOf chunks (groupKey chunk)) := by
    rw [split]
    exact List.mem_cons_self
  obtain ⟨listed', same⟩ := mem_groupOf.mp (mem_sortChunks.mp head)
  obtain ⟨count, probes⟩ := sampled.alike first listed' chunk listed same
  exact ⟨first, later, split, listed', same, count, by rw [probesOf, probes, probesOf]⟩

/-- A well-formed chunk has one probe for each of its channels. -/
theorem WellFormed.length_probesOf {chunk : ChunkRecord S} (formed : WellFormed chunk) :
    (probesOf chunk).length = chunk.channelCount := by
  obtain ⟨probes, present, length⟩ := formed.probes
  rw [probesOf, present, Option.getD_some, length]

/-- The entries of the groups are the channels of the chunks, with the samples of all chunks. -/
theorem Alike.mem_allEntries (sampled : Alike chunks) {entry : Nat × List S} :
    entry ∈ allEntries chunks ↔ ∃ chunk ∈ chunks, ∃ channel < chunk.channelCount,
      entry = ((probesOf chunk).getD channel 0,
        (sortChunks (groupOf chunks (groupKey chunk))).flatMap (channelSamples channel)) := by
  simp only [allEntries, List.mem_flatMap, mem_keys]
  -- Each group gives one entry for each of its channels.
  constructor
  · rintro ⟨_, ⟨chunk, listed, rfl⟩, found⟩
    obtain ⟨first, later, split, -, -, count, probes⟩ := sampled.head listed
    simp only [split, groupEntries, List.mem_map, List.mem_range] at found
    obtain ⟨channel, inside, rfl⟩ := found
    exact ⟨chunk, listed, channel, count ▸ inside, by rw [split, probes]⟩
  · rintro ⟨chunk, listed, channel, inside, rfl⟩
    obtain ⟨first, later, split, -, -, count, probes⟩ := sampled.head listed
    refine ⟨groupKey chunk, ⟨chunk, listed, rfl⟩, ?_⟩
    simp only [split, groupEntries, List.mem_map, List.mem_range]
    exact ⟨channel, count ▸ inside, by rw [probes]⟩

/-- Each probe of a chunk has an entry, with the samples of its channel in the whole group. -/
theorem Alike.entry_of_probe (sampled : Alike chunks) {chunk : ChunkRecord S}
    (listed : chunk ∈ chunks) {channel probe : Nat} (found : (probesOf chunk)[channel]? = some probe) :
    (probe, (sortChunks (groupOf chunks (groupKey chunk))).flatMap (channelSamples channel)) ∈
      allEntries chunks := by
  -- The channel of a probe is its place among the probes.
  obtain ⟨inside, here⟩ := List.getElem?_eq_some_iff.mp found
  refine sampled.mem_allEntries.mpr ⟨chunk, listed, channel, ?_, ?_⟩
  · exact (sampled.wellFormed chunk listed).length_probesOf ▸ inside
  · rw [List.getD_eq_getElem _ _ inside, here]

/-- The probes with an entry are the probes of the chunks. -/
theorem Sampled.mem_probes (sampled : Sampled chunks) {probe : Nat} :
    probe ∈ (allEntries chunks).map Prod.fst ↔ ∃ chunk ∈ chunks, probe ∈ probesOf chunk := by
  -- A chunk names as many probes as it has channels.
  constructor
  · intro known
    obtain ⟨entry, member, rfl⟩ := List.mem_map.mp known
    obtain ⟨chunk, listed, channel, inside, rfl⟩ := sampled.toAlike.mem_allEntries.mp member
    have inside := (sampled.wellFormed chunk listed).length_probesOf.symm ▸ inside
    exact ⟨chunk, listed, by rw [List.getD_eq_getElem _ _ inside]; exact List.getElem_mem inside⟩
  · rintro ⟨chunk, listed, known⟩
    obtain ⟨channel, inside, rfl⟩ := List.getElem_of_mem known
    exact List.mem_map_of_mem (sampled.toAlike.entry_of_probe listed (List.getElem?_eq_getElem inside))

/-- The probes of a group's entries are those of its chunks. -/
theorem Sampled.probes_groupEntries (sampled : Sampled chunks) {chunk : ChunkRecord S}
    (listed : chunk ∈ chunks) :
    (groupEntries (sortChunks (groupOf chunks (groupKey chunk)))).map Prod.fst = probesOf chunk := by
  obtain ⟨first, later, split, -, -, count, probes⟩ := sampled.toAlike.head listed
  have length := (sampled.wellFormed chunk listed).length_probesOf
  rw [split]
  simp only [groupEntries, List.map_map, probes, count, ← length]
  -- The names are compared channel by channel.
  refine List.ext_getElem (by simp) fun channel _ inside => ?_
  simp [List.getD_eq_getElem?_getD, List.getElem?_eq_getElem inside]

/-- No probe has two entries. -/
theorem Sampled.probes_nodup (sampled : Sampled chunks) :
    ((allEntries chunks).map Prod.fst).Nodup := by
  rw [allEntries, List.map_flatMap]
  -- No probe twice in a group, and none in two groups.
  refine List.nodup_flatMap.mpr ⟨?_, ?_⟩
  · intro key known
    obtain ⟨chunk, listed, rfl⟩ := mem_keys.mp known
    rw [sampled.probes_groupEntries listed]
    exact sampled.distinct chunk listed
  · -- Different keys belong to groups that share no probe.
    have keys : ((chunks.map groupKey).reverse.dedup.reverse).Nodup :=
      List.nodup_reverse.mpr (List.nodup_dedup _)
    refine keys.imp_of_mem ?_
    intro key other known known' different
    obtain ⟨chunk, listed, rfl⟩ := mem_keys.mp known
    obtain ⟨chunk', listed', rfl⟩ := mem_keys.mp known'
    simp only [Function.onFun, sampled.probes_groupEntries listed,
      sampled.probes_groupEntries listed']
    exact sampled.disjoint chunk listed chunk' listed' different

/-- The entries are the same up to order in whatever order the chunks have come. -/
theorem Sampled.allEntries_perm (sampled : Sampled chunks) (perm : chunks.Perm others) :
    (allEntries chunks).Perm (allEntries others) := by
  -- The groups come in another order, each with the same entries.
  have keys : ((chunks.map groupKey).reverse.dedup.reverse).Perm
      ((others.map groupKey).reverse.dedup.reverse) := by
    refine (List.perm_ext_iff_of_nodup (List.nodup_reverse.mpr (List.nodup_dedup _))
      (List.nodup_reverse.mpr (List.nodup_dedup _))).mpr fun key => ?_
    rw [mem_keys, mem_keys]
    exact exists_congr fun chunk => and_congr_left fun _ => perm.mem_iff
  have same : (fun key => groupEntries (sortChunks (groupOf chunks key))) =
      fun key => groupEntries (sortChunks (groupOf others key)) := by
    funext key
    rw [sampled.sorted_perm perm key]
  rw [allEntries, allEntries, same]
  exact keys.flatMap_right _

/-- The greatest of some numbers is none below any of them, and is one of them unless it is zero. -/
theorem foldl_max_spec (numbers : List Nat) : ∀ start,
    start ≤ numbers.foldl max start ∧ (∀ number ∈ numbers, number ≤ numbers.foldl max start) ∧
      (numbers.foldl max start = start ∨ numbers.foldl max start ∈ numbers) := by
  -- The induction is for every start, as the fold moves it.
  induction numbers with
  | nil => exact fun start => ⟨le_rfl, by simp, .inl rfl⟩
  | cons number later ih =>
    intro start
    obtain ⟨above, each, source⟩ := ih (max start number)
    refine ⟨by simp only [List.foldl_cons]; omega, ?_, ?_⟩
    · intro other member
      rcases List.mem_cons.mp member with rfl | member
      · simp only [List.foldl_cons]; omega
      · exact each other member
    · simp only [List.foldl_cons, List.mem_cons]
      rcases source with same | found
      · -- The fold has not risen above its new start, which is one of the two.
        rw [same]
        omega
      · exact .inr (.inr found)

variable {probes : List (Nat × List S)}

/-- The data by probe reaches up to the highest probe. -/
theorem length_dataByProbe :
    (dataByProbe probes).length = (probes.map Prod.fst).foldl max 0 + 1 := by
  simp [dataByProbe]

/-- Where no probe has two entries, an entry is the only one of its probe. -/
theorem filter_probe (nodup : (probes.map Prod.fst).Nodup) {entry : Nat × List S}
    (listed : entry ∈ probes) :
    probes.filter (fun other => decide (other.1 = entry.1)) = [entry] := by
  -- Each probe is listed once, so that the filter keeps one entry.
  have apart := List.Nodup.of_map _ nodup
  refine List.perm_singleton.mp ((List.perm_ext_iff_of_nodup (apart.filter _)
    (List.nodup_singleton _)).mpr fun other => ?_)
  simp only [List.mem_filter, decide_eq_true_eq, List.mem_singleton]
  constructor
  · rintro ⟨listed', same⟩
    exact List.inj_on_of_nodup_map nodup listed' listed same
  · rintro rfl
    exact ⟨listed, rfl⟩

/-- An entry that is the only one of its probe is stored as it is. -/
theorem dataByProbe_entry (nodup : (probes.map Prod.fst).Nodup) {entry : Nat × List S}
    (listed : entry ∈ probes) : (dataByProbe probes)[entry.1]? = some (some entry.2) := by
  have probe : entry.1 ∈ probes.map Prod.fst := List.mem_map_of_mem listed
  -- The table reaches up to the greatest probe.
  have below := (foldl_max_spec (probes.map Prod.fst) 0).2.1 entry.1 probe
  rw [dataByProbe, List.getElem?_map, List.getElem?_range (by omega), Option.map_some, if_pos probe,
    filter_probe nodup listed, List.flatMap_singleton]

/-- Below the highest probe, an index that is no probe is stored as empty. -/
theorem dataByProbe_gap {index : Nat} (absent : index ∉ probes.map Prod.fst)
    (inside : index < (dataByProbe probes).length) : (dataByProbe probes)[index]? = some none := by
  rw [length_dataByProbe] at inside
  rw [dataByProbe, List.getElem?_map, List.getElem?_range inside, Option.map_some, if_neg absent]

/-- The data by probe does not depend on the order of the entries. -/
theorem dataByProbe_perm {probes' : List (Nat × List S)} (nodup : (probes.map Prod.fst).Nodup)
    (perm : probes.Perm probes') : dataByProbe probes = dataByProbe probes' := by
  have keys := perm.map Prod.fst
  have same : (dataByProbe probes).length = (dataByProbe probes').length := by
    rw [length_dataByProbe, length_dataByProbe, keys.foldl_eq 0]
  refine List.ext_getElem? fun index => ?_
  by_cases inside : index < (dataByProbe probes).length
  -- Each index holds its only entry, or the gap that no entry fills.
  · by_cases known : index ∈ probes.map Prod.fst
    · obtain ⟨entry, listed, rfl⟩ := List.mem_map.mp known
      rw [dataByProbe_entry nodup listed,
        dataByProbe_entry (keys.nodup_iff.mp nodup) (perm.mem_iff.mp listed)]
    · rw [dataByProbe_gap known inside,
        dataByProbe_gap (fun found => known (keys.mem_iff.mpr found)) (same ▸ inside)]
  · rw [List.getElem?_eq_none (by omega), List.getElem?_eq_none (by omega)]

/--
The data of a run holds under each probe the samples of its channel, chunk by chunk.

It does not depend on the order in which the chunks have arrived.
-/
theorem run_data_assembled (clustersPerCarrier : List (List (List UInt8) × Nat))
    {chunks : List (ChunkRecord S)} (sampled : Sampled chunks) (run : RunData S) :
    ∃ final, assembleRunData clustersPerCarrier chunks run = .ok () final ∧
      (∀ chunk ∈ chunks, ∀ channel probe, (probesOf chunk)[channel]? = some probe →
        ∃ sorted : List (ChunkRecord S), sorted.Perm (groupOf chunks (groupKey chunk)) ∧
          (sorted.Pairwise fun first second => first.chunkNumber < second.chunkNumber) ∧
          final.data[probe]? = some (some (sorted.flatMap (channelSamples channel)))) ∧
      (∀ highest, (∃ chunk ∈ chunks, highest ∈ probesOf chunk) →
        (∀ chunk ∈ chunks, ∀ probe ∈ probesOf chunk, probe ≤ highest) →
        final.data.length = highest + 1 ∧
          ∀ index < highest, (∀ chunk ∈ chunks, index ∉ probesOf chunk) →
            final.data[index]? = some none) ∧
      ∀ others : List (ChunkRecord S), others.Perm chunks →
        assembleRunData clustersPerCarrier others run = .ok () final := by
  have nodup := sampled.probes_nodup
  refine ⟨_, sampled.assembled clustersPerCarrier run, ?_, ?_, ?_⟩
  · intro chunk member channel probe found
    refine ⟨_, List.perm_insertionSort _ _, sampled.sorted _, ?_⟩
    have entry := sampled.toAlike.entry_of_probe member found
    rw [if_neg (List.ne_nil_of_mem entry)]
    exact dataByProbe_entry nodup entry
  · rintro highest ⟨chunk, member, known⟩ most
    have entry := sampled.mem_probes.mpr ⟨chunk, member, known⟩
    have filled : allEntries chunks ≠ [] := by
      intro empty
      simp [empty] at entry
    rw [if_neg filled]
    -- The highest probe is the one the data reaches up to.
    have reach : ((allEntries chunks).map Prod.fst).foldl max 0 = highest := by
      obtain ⟨-, each, found⟩ := foldl_max_spec ((allEntries chunks).map Prod.fst) 0
      have below := each highest entry
      rcases found with zero | found
      · omega
      · obtain ⟨chunk', member', known'⟩ := sampled.mem_probes.mp found
        have := most chunk' member' _ known'
        omega
    have length : (dataByProbe (allEntries chunks)).length = highest + 1 := by
      rw [length_dataByProbe, reach]
    refine ⟨length, fun index below absent => ?_⟩
    refine dataByProbe_gap (fun known => ?_) (by omega)
    obtain ⟨chunk', member', known'⟩ := sampled.mem_probes.mp known
    exact absent chunk' member' known'
  · intro others perm
    have same := sampled.allEntries_perm perm.symm
    rw [(sampled.perm perm.symm).assembled, ← dataByProbe_perm nodup same]
    -- The entries are none for both or some for both.
    have both : allEntries others = [] ↔ allEntries chunks = [] := by
      rw [← List.length_eq_zero_iff, ← List.length_eq_zero_iff, same.length_eq]
    simp only [both]

/-- Three chunks of two carriers; the second chunk of the first carrier comes first. -/
def sampleChunks : List (ChunkRecord Nat) :=
  [⟨1, [65], 0, 2, [[12], [22]], some [0, 3]⟩, ⟨0, [66], 0, 1, [[31, 32]], some [1]⟩,
    ⟨0, [65], 0, 2, [[10, 11], [20, 21]], some [0, 3]⟩]

/-- The chunks of the sample are put together in order, with a gap where there is no probe. -/
theorem run_data_assembled_sample :
    ∃ final, assembleRunData [] sampleChunks RunData.empty = .ok () final ∧
      final.data = [some [10, 11, 12], some [31, 32], none, some [20, 21, 22]] := by
  -- Three chunks in two groups, which leave probe 2 open.
  have sampled : Sampled sampleChunks := by
    refine ⟨?_, by decide, by decide, by decide, by decide, ?_⟩
    · intro chunk member
      simp only [sampleChunks, List.mem_cons, List.not_mem_nil, or_false] at member
      rcases member with rfl | rfl | rfl <;> exact ⟨⟨_, rfl⟩, rfl, ⟨_, rfl, rfl⟩⟩
    · simp only [List.disjoint_left]
      decide
  obtain ⟨final, assembled, -⟩ := run_data_assembled [] sampled RunData.empty
  refine ⟨final, assembled, ?_⟩
  cases assembled
  decide

/-- A chunk of the entity `A/0/M0/x`, whose fourth part is no number. -/
def strayChunk : ChunkRecord Nat :=
  ⟨0, [65, 47, 48, 47, 77, 48, 47, 120], SampleDecoding.sampleTypeOp.toNat, 1, [[10]], some [0]⟩

/-- Its run is not assembled, though it has a row and a probe for its channel and is on its own. -/
theorem stray_chunk_raises :
    strayChunk.samples.length = strayChunk.channelCount ∧
      (probesOf strayChunk).length = strayChunk.channelCount ∧ (probesOf strayChunk).Nodup ∧
      assembleRunData [] [strayChunk] RunData.empty =
        .error ⟨.valueError, "invalid literal for int() with base 10"⟩ RunData.empty := by
  refine ⟨rfl, rfl, by decide, ?_⟩
  -- The path of the group is parsed before any of its samples is looked at.
  rfl

end Pybrid.Client.SampleAssembly
