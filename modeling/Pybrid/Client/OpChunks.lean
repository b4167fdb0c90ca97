import Pybrid.Client.RunData

/-! The chunks sampled during a run among all its chunks: they alone make up its data. -/

namespace Pybrid.Client.SampleAssembly

variable {S : Type}

/-- The chunks sampled during the operation phase. -/
def opChunks (chunks : List (ChunkRecord S)) : List (ChunkRecord S) :=
  chunks.filter fun chunk => chunk.sampleType = SampleDecoding.sampleTypeOp.toNat

/-- Chunks that can be assembled: all entities have paths, and what was sampled is well-formed. -/
structure Assemblable (chunks : List (ChunkRecord S)) : Prop where
  path : ∀ chunk ∈ chunks, ∃ entity, parsePath chunk.entityPath = .ok entity
  op : Alike (opChunks chunks)

variable {chunks : List (ChunkRecord S)}

/-- A chunk sampled during the operation phase is one of all chunks. -/
theorem mem_opChunks {chunk : ChunkRecord S} :
    chunk ∈ opChunks chunks ↔
      chunk ∈ chunks ∧ chunk.sampleType = SampleDecoding.sampleTypeOp.toNat := by
  simp [opChunks]

/-- Removing duplicates and filtering can be done in either order. -/
theorem filter_dedup {α : Type} [DecidableEq α] (keep : α → Bool) (values : List α) :
    values.dedup.filter keep = (values.filter keep).dedup := by
  -- Whether a value is kept and whether it comes again are asked apart.
  induction values with
  | nil => rfl
  | cons value later ih =>
    by_cases kept : keep value
    · rw [List.filter_cons_of_pos kept]
      by_cases again : value ∈ later
      · rw [List.dedup_cons_of_mem again, ih,
          List.dedup_cons_of_mem (List.mem_filter.mpr ⟨again, kept⟩)]
      · rw [List.dedup_cons_of_notMem again, List.filter_cons_of_pos kept, ih,
          List.dedup_cons_of_notMem fun member => again (List.mem_filter.mp member).1]
    · rw [List.filter_cons_of_neg kept]
      by_cases again : value ∈ later
      · rw [List.dedup_cons_of_mem again, ih]
      · rw [List.dedup_cons_of_notMem again, List.filter_cons_of_neg kept, ih]

/-- The groups sampled during the operation phase are the groups of the chunks sampled then. -/
theorem allEntries_opChunks (chunks : List (ChunkRecord S)) :
    allEntries (opChunks chunks) =
      (((chunks.map groupKey).reverse.dedup.reverse).filter fun key =>
        key.2 = SampleDecoding.sampleTypeOp.toNat).flatMap fun key =>
          groupEntries (sortChunks (groupOf chunks key)) := by
  have keys : ((opChunks chunks).map groupKey).reverse.dedup.reverse =
      ((chunks.map groupKey).reverse.dedup.reverse).filter fun key =>
        key.2 = SampleDecoding.sampleTypeOp.toNat := by
    rw [List.filter_reverse, filter_dedup, List.filter_reverse, List.filter_map]
    rfl
  rw [allEntries, keys]
  refine List.flatMap_congr fun key member => ?_
  have op : key.2 = SampleDecoding.sampleTypeOp.toNat := by simpa using (List.mem_filter.mp member).2
  -- A chunk in such a group was sampled during the operation phase.
  have same : groupOf (opChunks chunks) key = groupOf chunks key := by
    simp only [groupOf, opChunks, List.filter_filter]
    refine List.filter_congr fun chunk _ => ?_
    by_cases here : groupKey chunk = key
    · have sampled : chunk.sampleType = SampleDecoding.sampleTypeOp.toNat := by
        rw [← op, ← here, groupKey]
      simp [here, sampled]
    · simp [here]
  rw [same]

/-- A group that was not sampled during the operation phase leaves samples and data alone. -/
theorem assembleGroup_other (clustersPerCarrier : List (List (List UInt8) × Nat))
    {first : ChunkRecord S} {later : List (ChunkRecord S)} {entity : List (List UInt8)}
    (parsed : parsePath first.entityPath = .ok entity)
    (other : first.sampleType ≠ SampleDecoding.sampleTypeOp.toNat)
    (probes : List (Nat × List S)) (run : RunData S) :
    ∃ final, assembleGroup clustersPerCarrier (first :: later) probes run = .ok probes final ∧
      final.data = run.data := by
  simp only [assembleGroup, parsed, if_neg other]
  -- Final values go elsewhere and unknown types nowhere; neither is sampled data.
  split
  · exact ⟨_, rfl, rfl⟩
  · exact ⟨run, rfl, rfl⟩

/-- The groups add the entries of those sampled during the operation phase, and no data yet. -/
theorem Assemblable.assembleGroups (can : Assemblable chunks)
    (clustersPerCarrier : List (List (List UInt8) × Nat)) :
    ∀ (keys : List (List UInt8 × Nat)) (probes : List (Nat × List S)) (run : RunData S),
      (∀ key ∈ keys, ∃ chunk ∈ chunks, groupKey chunk = key) →
      ∃ final, SampleAssembly.assembleGroups clustersPerCarrier (keys.map (groupOf chunks)) probes run =
          .ok (probes ++ (keys.filter fun key =>
            key.2 = SampleDecoding.sampleTypeOp.toNat).flatMap fun key =>
              groupEntries (sortChunks (groupOf chunks key))) final ∧
        final.data = run.data := by
  intro keys
  -- The induction is on the groups still to be added.
  induction keys with
  | nil => exact fun probes run _ => ⟨run, by simp [SampleAssembly.assembleGroups]; rfl, rfl⟩
  | cons key keys ih =>
    intro probes run known
    obtain ⟨chunk, listed, keyed⟩ := known key List.mem_cons_self
    have present : chunk ∈ sortChunks (groupOf chunks key) :=
      mem_sortChunks.mpr (mem_groupOf.mpr ⟨listed, keyed⟩)
    obtain ⟨first, later, split⟩ := List.exists_cons_of_ne_nil (List.ne_nil_of_mem present)
    have inside : ∀ other ∈ sortChunks (groupOf chunks key), other ∈ chunks ∧ groupKey other = key :=
      fun other member => mem_groupOf.mp (mem_sortChunks.mp member)
    obtain ⟨listed', keyed'⟩ := inside first (split ▸ List.mem_cons_self)
    obtain ⟨entity, parsed⟩ := can.path first listed'
    by_cases op : key.2 = SampleDecoding.sampleTypeOp.toNat
    · -- All chunks of the group were sampled during the operation phase.
      have sampled : ∀ other ∈ sortChunks (groupOf chunks key), other ∈ opChunks chunks := by
        intro other member
        obtain ⟨listed, keyed⟩ := inside other member
        refine mem_opChunks.mpr ⟨listed, ?_⟩
        rw [← op, ← keyed, groupKey]
      have added := assembleGroup_returns clustersPerCarrier
        (fun other member => can.op.wellFormed other (sampled other member))
        (fun other member => can.op.op other (sampled other member))
        (fun other member another member' =>
          (can.op.alike other (sampled other member) another (sampled another member')
            ((inside other member).2.trans (inside another member').2.symm)).1) probes run
      obtain ⟨final, ran, kept⟩ := ih (probes ++ groupEntries (sortChunks (groupOf chunks key))) run
        fun other member => known other (List.mem_cons_of_mem _ member)
      refine ⟨final, ?_, kept⟩
      rw [List.map_cons, SampleAssembly.assembleGroups, Raising.bind_of_ok added, ran,
        List.filter_cons_of_pos (by simpa using op), List.flatMap_cons, List.append_assoc]
    · have other : first.sampleType ≠ SampleDecoding.sampleTypeOp.toNat := by
        rw [← keyed', groupKey] at op
        exact op
      obtain ⟨middle, added, same⟩ : ∃ middle,
          assembleGroup clustersPerCarrier (first :: later) probes run = .ok probes middle ∧
            middle.data = run.data := assembleGroup_other clustersPerCarrier parsed other probes run
      obtain ⟨final, ran, kept⟩ := ih probes middle
        fun other member => known other (List.mem_cons_of_mem _ member)
      refine ⟨final, ?_, kept.trans same⟩
      rw [← split] at added
      rw [List.map_cons, SampleAssembly.assembleGroups, Raising.bind_of_ok added, ran,
        List.filter_cons_of_neg (by simpa using op)]

/-- Assembling never raises on such chunks, and what was sampled makes up the data. -/
theorem Assemblable.assembled (can : Assemblable chunks)
    (clustersPerCarrier : List (List (List UInt8) × Nat)) (run : RunData S) :
    ∃ final, assembleRunData clustersPerCarrier chunks run = .ok () final ∧
      final.data = if allEntries (opChunks chunks) = [] then run.data
        else dataByProbe (allEntries (opChunks chunks)) := by
  by_cases empty : chunks = []
  · subst empty
    exact ⟨run, rfl, rfl⟩
  obtain ⟨middle, added, kept⟩ := can.assembleGroups clustersPerCarrier _ [] run
    fun key member => mem_keys.mp member
  rw [← allEntries_opChunks, List.nil_append] at added
  have added : SampleAssembly.assembleGroups clustersPerCarrier (groups chunks) [] run =
      .ok (allEntries (opChunks chunks)) middle := added
  unfold assembleRunData
  rw [if_neg (by simpa using empty), Raising.bind_of_ok added]
  -- The data are replaced only if some group of samples was found.
  by_cases none_ : allEntries (opChunks chunks) = []
  · refine ⟨middle, ?_, by rw [if_pos none_, kept]⟩
    simp only [none_, List.isEmpty_nil, Bool.not_true, Bool.false_eq_true, if_false]
    rfl
  · have filled : (!(allEntries (opChunks chunks)).isEmpty) = true := by simpa using none_
    refine ⟨{ middle with data := dataByProbe (allEntries (opChunks chunks)) }, ?_, ?_⟩
    · rw [if_pos filled]
      rfl
    · rw [if_neg none_]

/-- An entry of the data collects what there is for one probe. -/
theorem mem_dataByProbe {entries : List (Nat × List S)} {samples : List S} :
    some samples ∈ dataByProbe entries ↔ ∃ probe ∈ entries.map Prod.fst,
      samples = (entries.filter fun entry => entry.1 = probe).flatMap Prod.snd := by
  rw [dataByProbe, List.mem_map]
  -- A place of the table is filled exactly for a probe that is listed.
  constructor
  · rintro ⟨probe, -, stored⟩
    split at stored
    · rename_i known
      cases stored
      exact ⟨probe, known, rfl⟩
    · cases stored
  · rintro ⟨probe, known, rfl⟩
    have below := (foldl_max_spec (entries.map Prod.fst) 0).2.1 probe known
    exact ⟨probe, List.mem_range.mpr (by omega), by rw [if_pos known]⟩

/-- The data of a new run has an entry for each probe that something was sampled for. -/
theorem Assemblable.assembled_empty (can : Assemblable chunks)
    (clustersPerCarrier : List (List (List UInt8) × Nat)) :
    ∃ final, assembleRunData clustersPerCarrier chunks .empty = .ok () final ∧
      ∀ samples, some samples ∈ final.data ↔
        ∃ probe ∈ (allEntries (opChunks chunks)).map Prod.fst,
          samples = ((allEntries (opChunks chunks)).filter fun entry =>
            entry.1 = probe).flatMap Prod.snd := by
  obtain ⟨final, ran, data⟩ := can.assembled clustersPerCarrier .empty
  refine ⟨final, ran, fun samples => ?_⟩
  rw [data]
  -- Without entries the data stay empty.
  split
  · rename_i none_
    simp [none_, RunData.empty]
  · exact mem_dataByProbe

end Pybrid.Client.SampleAssembly
