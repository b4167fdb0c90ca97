import Pybrid.Client.SampleAssembly
import Pybrid.Redac.Signals

/-! Final values by path, and the paths of the elements they belong to. -/

namespace Pybrid.Client

/-- The parts of a parsed path: three texts at most, and the number of a function. -/
def typedPath (parts : List (List UInt8)) : EntityPath :=
  (parts.take 3).map PathPart.text ++ (parts.drop 3).map fun function =>
    match Python.int function with
    | .ok value => .number value
    | .error _ => .text function

/-- The key of a final value: the number of the output is written as a text, too. -/
def FinalPlace.path (place : FinalPlace) : EntityPath :=
  (blockPath (typedPath place.entity) place.cluster place.block).join
    (.text (Python.decimal place.output))

/-- `run.final_values[path]`; a later entry overrides an earlier one. -/
def RunData.finalValue {S : Type} (run : RunData S) (path : EntityPath) : Option S :=
  (run.finalValues.reverse.find? fun entry => entry.1.path = path).map Prod.snd

/-- Three texts follow the path of the entity. -/
theorem FinalPlace.path_eq (place : FinalPlace) :
    place.path = typedPath place.entity ++ [.text (Python.decimal place.cluster),
      .text (77 :: Python.decimal place.block), .text (Python.decimal place.output)] := by
  simp [path, blockPath, EntityPath.join]

/-- Different places on an entity have different keys. -/
theorem FinalPlace.path_injective {place place' : FinalPlace}
    (entity : place.entity = place'.entity) (same : place.path = place'.path) : place = place' := by
  obtain ⟨parts, cluster, block, output⟩ := place
  obtain ⟨parts', cluster', block', output'⟩ := place'
  obtain rfl : parts = parts' := entity
  -- Each part of a path is the text of a number, which is read back.
  rw [path_eq, path_eq] at same
  have texts := List.append_cancel_left same
  simp only [List.cons.injEq, PathPart.text.injEq, and_true, true_and] at texts
  obtain ⟨clusters, blocks, outputs⟩ := texts
  rw [Python.decimal_injective clusters, Python.decimal_injective blocks,
    Python.decimal_injective outputs]

/-- No key ends in a number. -/
theorem FinalPlace.path_ne (place : FinalPlace) (block : EntityPath) (element : Int) :
    place.path ≠ block.join (.number element) := by
  intro same
  have last := congrArg List.getLast? same
  simp [path, EntityPath.join] at last

/-- No final value is found under a path that ends in a number. -/
theorem RunData.finalValue_number {S : Type} (run : RunData S) (block : EntityPath)
    (element : Int) : run.finalValue (block.join (.number element)) = none := by
  rw [finalValue, Option.map_eq_none_iff, List.find?_eq_none]
  intro entry _ same
  exact entry.1.path_ne block element (of_decide_eq_true same)

namespace SampleAssembly

variable {S : Type} (clustersPerCarrier : List (List (List UInt8) × Nat))

/-- How many clusters the carrier of an entity has. -/
def clustersOf (entity : List (List UInt8)) : ℕ :=
  (clustersPerCarrier.lookup (entity.take 1)).getD 3

/-- The final values of a chunk: for each output of each block the value at its place. -/
theorem mem_finalValuesOf {entity : List (List UInt8)} {chunk : ChunkRecord S} {place : FinalPlace}
    {value : S} : (place, value) ∈ finalValuesOf clustersPerCarrier entity chunk ↔
      place.entity = entity ∧ place.cluster < clustersOf clustersPerCarrier entity ∧
        place.block < 2 ∧ place.output < 8 ∧
        chunk.samples.flatten[place.cluster * 16 + place.block * 8 + place.output]? =
          some value := by
  have listed : finalValuesOf clustersPerCarrier entity chunk =
      (List.range (clustersOf clustersPerCarrier entity * 2)).flatMap fun block =>
        (List.range 8).filterMap fun output =>
          (chunk.samples.flatten[block * 8 + output]?).map fun value =>
            (⟨entity, block / 2, block % 2, output⟩, value) := rfl
  simp only [listed, List.mem_flatMap, List.mem_filterMap, List.mem_range, Option.map_eq_some_iff,
    Prod.mk.injEq]
  -- The blocks of all clusters are counted through, two for each cluster.
  constructor
  · rintro ⟨block, bound, output, small, value', found, rfl, rfl⟩
    refine ⟨rfl, ?_, ?_, small, ?_⟩
    · show block / 2 < _
      omega
    · show block % 2 < 2
      omega
    · have index : block / 2 * 16 + block % 2 * 8 + output = block * 8 + output := by omega
      rw [index, found]
  · obtain ⟨parts, cluster, block, output⟩ := place
    rintro ⟨rfl, bound, two, small, found⟩
    have index : (cluster * 2 + block) * 8 + output = cluster * 16 + block * 8 + output := by omega
    refine ⟨cluster * 2 + block, ?_, output, small, value, by rw [index, found], ?_, rfl⟩
    · dsimp only at bound two ⊢
      omega
    · dsimp only at two
      have half : (cluster * 2 + block) / 2 = cluster := by omega
      have odd : (cluster * 2 + block) % 2 = block := by omega
      rw [half, odd]

/-- A group of chunks from the end of a run adds the values of its last chunk. -/
theorem assembleGroup_opEnd {sorted : List (ChunkRecord S)} {first last : ChunkRecord S}
    {entity : List (List UInt8)} (front : sorted.head? = some first)
    (back : sorted.getLast? = some last)
    (kind : first.sampleType = SampleDecoding.sampleTypeOpEnd.toNat)
    (parsed : parsePath first.entityPath = .ok entity) (probes : List (Nat × List S))
    (run : RunData S) : assembleGroup clustersPerCarrier sorted probes run = .ok probes { run with
      finalValues := run.finalValues ++ finalValuesOf clustersPerCarrier entity last } := by
  -- The first chunk gives path and type, the last one the values.
  cases sorted with
  | nil => cases front
  | cons head later =>
    obtain rfl : head = first := Option.some.inj front
    have opEnd : head.sampleType ≠ SampleDecoding.sampleTypeOp.toNat := by
      rw [kind]
      decide
    unfold assembleGroup
    simp only [parsed, if_neg opEnd, if_pos kind, back, Option.getD_some]

/-- The values that were added last decide on what is found. -/
theorem finalValue_append {entity : List (List UInt8)} {chunk : ChunkRecord S} {place : FinalPlace}
    {value : S} (present : (place, value) ∈ finalValuesOf clustersPerCarrier entity chunk)
    (run : RunData S) : RunData.finalValue
      { run with finalValues := run.finalValues ++ finalValuesOf clustersPerCarrier entity chunk }
      place.path = some value := by
  rw [RunData.finalValue, List.reverse_append, List.find?_append]
  cases found : (finalValuesOf clustersPerCarrier entity chunk).reverse.find?
      fun entry => entry.1.path = place.path with
  | none =>
    exact absurd (decide_eq_true rfl)
      (List.find?_eq_none.mp found (place, value) (List.mem_reverse.mpr present))
  | some entry =>
    -- An entry with this key is one of this place, and all of these have the value.
    have member := List.mem_reverse.mp (List.mem_of_find?_eq_some found)
    have same := List.find?_some found
    obtain ⟨there, value'⟩ := entry
    have here := (mem_finalValuesOf clustersPerCarrier).mp member
    have wanted := (mem_finalValuesOf clustersPerCarrier).mp present
    obtain rfl := FinalPlace.path_injective (here.1.trans wanted.1.symm) (of_decide_eq_true same)
    exact congrArg some (Option.some.inj (here.2.2.2.2.symm.trans wanted.2.2.2.2))

/-- A group of a single chunk is a group of its own. -/
theorem groups_singleton (chunk : ChunkRecord S) : groups [chunk] = [[chunk]] := by
  simp [groups]

end SampleAssembly

open SampleAssembly in
/--
The values sampled at the end of a run are those of the signals, under the texts of their paths.

Here the buffer has one chunk of a carrier; an element of it is written as its number.
-/
theorem finalValue_signal {S : Type} (clustersPerCarrier : List (List (List UInt8) × Nat))
    {chunk : ChunkRecord S} {root : List UInt8} (run : RunData S)
    (kind : chunk.sampleType = SampleDecoding.sampleTypeOpEnd.toNat)
    (parsed : parsePath chunk.entityPath = .ok [root]) {cluster slot element : ℕ} {value : S}
    (bounds : cluster < clustersOf clustersPerCarrier [root] ∧ slot < 2 ∧ element < 8)
    (sampled : ∃ index : ℕ, resolveSignal [.text root] (elementPath root cluster slot element) =
      .ok index ∧ chunk.samples.flatten[index]? = some value) :
    (Raising.final (assembleRunData clustersPerCarrier [chunk] run)).finalValue
      ((blockPath [.text root] cluster slot).join (.text (Python.decimal element))) =
        some value := by
  obtain ⟨index, resolved, found⟩ := sampled
  rw [resolveSignal_element] at resolved
  obtain rfl : cluster * 16 + slot * 8 + element = index := by
    have same := Except.ok.inj resolved
    omega
  -- The index that the path resolves to is the position of the value among the samples.
  have member : (⟨[root], cluster, slot, element⟩, value) ∈
      finalValuesOf clustersPerCarrier [root] chunk :=
    (mem_finalValuesOf clustersPerCarrier).mpr ⟨rfl, bounds.1, bounds.2.1, bounds.2.2, found⟩
  have added : assembleGroup clustersPerCarrier (sortChunks [chunk]) [] run = .ok [] { run with
      finalValues := run.finalValues ++ finalValuesOf clustersPerCarrier [root] chunk } :=
    assembleGroup_opEnd clustersPerCarrier rfl rfl kind parsed [] run
  have whole : assembleRunData clustersPerCarrier [chunk] run = .ok () { run with
      finalValues := run.finalValues ++ finalValuesOf clustersPerCarrier [root] chunk } := by
    simp only [assembleRunData, groups_singleton, assembleGroups]
    rw [if_neg (by simp)]
    exact Raising.bind_of_ok (Raising.bind_of_ok added)
  rw [whole]
  exact finalValue_append clustersPerCarrier member run

/-- No element finds its final value: its path ends in a number, and the keys end in texts. -/
theorem element_unvalued {S : Type} (clustersPerCarrier : List (List (List UInt8) × Nat))
    (chunks : List (ChunkRecord S)) (run : RunData S) (block : EntityPath) (element : ℕ) :
    (Raising.final (assembleRunData clustersPerCarrier chunks run)).finalValue
      (block.join (.number element)) = none :=
  RunData.finalValue_number _ block element

/-- The value of the fourth element of a block is there, under the text of its number only. -/
theorem final_value_of_text :
    let chunk : ChunkRecord ℕ := ⟨0, [65], SampleDecoding.sampleTypeOpEnd.toNat, 16,
      (List.range 16).map fun signal => [signal], none⟩
    let run := Raising.final (assembleRunData [([[65]], 1)] [chunk] RunData.empty)
    resolveSignal [.text [65]] (elementPath [65] 0 1 3) = .ok 11 ∧
      chunk.samples.flatten[11]? = some 11 ∧
      run.finalValue (elementPath [65] 0 1 3) = none ∧
      run.finalValue ((blockPath [.text [65]] 0 1).join (.text (Python.decimal 3))) = some 11 := by
  intro chunk run
  have resolved := resolveSignal_element [65] 0 1 3
  have sampled : chunk.samples.flatten[11]? = some 11 := rfl
  -- The key has the number as text, the path as a number.
  refine ⟨resolved, sampled, run.finalValue_number _ 3, ?_⟩
  exact finalValue_signal _ RunData.empty rfl rfl ⟨by decide, by decide, by decide⟩
    ⟨11, resolved, sampled⟩

end Pybrid.Client
