import Pybrid.Redac.BlockSerializer

/-! Which block configurations survive being written and read back. -/

namespace Pybrid

open Slots

/-- Inside the vector an assignment is a plain one. -/
theorem assign_of_lt {α ε : Type*} {n : Nat} {outOfRange : ε} {values : Vector α n} {index : Nat}
    (inside : index < n) (value : α) :
    assign outOfRange values index value = .ok (values.set index value inside) := by
  simp [assign, inside]

/-- The factors of a coefficient block are restored. -/
theorem CBlock.roundTrip (source target : CBlock) :
    target.deserializeConfiguration source.coefElements = .ok source := by
  -- A factor that comes from a block passes the validator again.
  have restored : source.coefElements.foldlM setFactor target.elements = .ok source.elements := by
    apply foldlM_enumerate
    intro state entry inside
    simp [setFactor, inside, Except.map]
  rw [deserializeConfiguration, restored]
  rfl

/-- The integrators are restored, and the limiters are kept. -/
theorem MIntBlock.roundTrip_itors (source target : MIntBlock) :
    target.deserializeItors source.itorElements =
      .ok { target with elements := source.elements } := by
  -- All eight integrators are listed, so that all of them are overwritten.
  have restored : source.itorElements.foldlM (fun current element =>
      assign Python.indexError current element.idx ⟨element.ic, element.k⟩) target.elements =
      .ok source.elements := by
    apply foldlM_enumerate
    exact fun state entry inside => assign_of_lt inside entry.2
  rw [deserializeItors, restored]
  rfl

/-- The limiters are restored, and the integrators are kept. -/
theorem MIntBlock.roundTrip_limiters (source target : MIntBlock) :
    target.deserializeLimiters source.limiterElements =
      .ok { target with limiters := source.limiters } := by
  -- All eight limiters are listed, so that the reset does not matter.
  have restored : source.limiterElements.foldlM (fun current element =>
      assign Python.assignmentError current element.idx element.enable)
      (Vector.replicate 8 false) = .ok source.limiters := by
    apply foldlM_enumerate
    exact fun state entry inside => assign_of_lt inside entry.2
  rw [deserializeLimiters, restored]
  rfl

/-- The operations of an MDR block are restored by their position. -/
theorem MMDRBlock.roundTrip (source target : MMDRBlock) :
    target.deserializeConfiguration source.operations = .ok source := by
  -- There are as many operations as elements, so that the positions meet all of them.
  have restored : source.operations.zipIdx.foldlM (fun elements entry =>
      assign Python.indexError elements entry.2 (MdrOperation.ofWire entry.1)) target.elements =
      .ok source.elements := by
    apply foldlM_restores _ Prod.snd
    · intro state entry member
      obtain ⟨operation, index⟩ := entry
      -- A numbered operation is the one at that position.
      have found := (List.mem_zipIdx_iff_getElem?).mp member
      simp only [operations, List.getElem?_map, Option.map_eq_some_iff] at found
      obtain ⟨element, located, rfl⟩ := found
      obtain ⟨inside, same⟩ := List.getElem?_eq_some_iff.mp located
      have bound : index < 4 := by simpa using inside
      refine ⟨bound, ?_⟩
      rw [assign_of_lt bound, MdrOperation.ofWire_toWire, ← same]
      rfl
    · intro k absent
      refine absurd ?_ absent
      simp [operations]
  rw [deserializeConfiguration, restored]
  rfl

/-- The sums and the upscaling are restored; outputs that sum nothing are reset. -/
theorem IBlock.roundTrip (source target : IBlock) :
    target.deserializeConfiguration source.sumConnections source.upscales = .ok source := by
  -- Outputs and upscaling are independent of each other, and both are built anew.
  have outputs : source.sumConnections.foldlM (fun current connection =>
      assign Python.assignmentError current connection.output connection.inputs.toFinset)
      (Vector.replicate 16 ∅) = .ok source.outputs := by
    apply foldlM_restores _ Wire.SumConnection.output
    · intro state entry member
      obtain ⟨output, listed, rfl⟩ := List.mem_map.mp member
      obtain ⟨inside, same⟩ := mem_enumerate.mp (List.mem_filter.mp listed).1
      exact ⟨inside, by rw [assign_of_lt inside, same, Finset.sort_toFinset]⟩
    · intro k absent
      -- An output without an entry sums nothing.
      have empty : source.outputs.get k = ∅ := by
        by_contra filled
        refine absent (List.mem_map.mpr ⟨⟨(source.outputs.get k).sort (· ≤ ·), k.val⟩, ?_, rfl⟩)
        refine List.mem_map.mpr ⟨(k.val, source.outputs.get k), ?_, rfl⟩
        exact List.mem_filter.mpr ⟨mem_enumerate.mpr ⟨k.isLt, rfl⟩, by simpa using filled⟩
      rw [empty]
      simp [Vector.get_eq_getElem]
  have upscaling : source.upscales.foldlM (fun current upscale =>
      assign Python.assignmentError current upscale.lane upscale.enabled)
      (Vector.replicate 32 false) = .ok source.upscaling := by
    apply foldlM_enumerate
    exact fun state entry inside => assign_of_lt inside entry.2
  rw [deserializeConfiguration, outputs, upscaling]
  rfl

/-- The multiplexers that are set are restored, and the others keep the target's states. -/
theorem TBlock.roundTrip {source : TBlock} (target : TBlock)
    (connected : ∀ k, (source.muxes.get k).isSome) :
    target.deserializeConfiguration source.setMuxes = .ok source := by
  -- Every multiplexer is set, so that each of them has an entry.
  have listed : ∀ k : Fin 96, ∃ mux ∈ source.setMuxes, mux.index = k.val := by
    intro k
    obtain ⟨state, held⟩ := Option.isSome_iff_exists.mp (connected k)
    refine ⟨⟨state, k.val⟩, List.mem_filterMap.mpr ⟨(k.val, some state), ?_, rfl⟩, rfl⟩
    exact mem_enumerate.mpr ⟨k.isLt, held⟩
  -- With more than one multiplexer the indices are not all zero.
  have indexed : ¬ (source.setMuxes.all fun mux => decide (mux.index = 0)) = true := by
    intro zeros
    obtain ⟨mux, member, index⟩ := listed 1
    have zero := List.all_eq_true.mp zeros mux member
    simp [index] at zero
  have restored : source.setMuxes.foldlM (fun current mux =>
      assign Python.assignmentError current mux.index (some mux.state)) target.muxes =
      .ok source.muxes := by
    apply foldlM_restores _ Wire.Mux.index
    · intro state entry member
      obtain ⟨mux, listed, found⟩ := List.mem_filterMap.mp member
      obtain ⟨held, set, rfl⟩ := Option.map_eq_some_iff.mp found
      obtain ⟨inside, same⟩ := mem_enumerate.mp listed
      exact ⟨inside, by rw [assign_of_lt inside, same, set]⟩
    · intro k absent
      obtain ⟨mux, member, index⟩ := listed k
      exact absurd (List.mem_map.mpr ⟨mux, member, index⟩) absent
  simp only [deserializeConfiguration, if_neg indexed, restored]
  rfl

/-- A multiplexer that is set makes the item stay. -/
theorem TBlock.serializeConfiguration_eq {source : TBlock}
    (connected : ∀ k, (source.muxes.get k).isSome) :
    source.serializeConfiguration = some (.switchConfig source.setMuxes) := by
  -- One entry is enough for the item to stay.
  obtain ⟨state, held⟩ := Option.isSome_iff_exists.mp (connected 0)
  have member : (⟨state, 0⟩ : Wire.Mux) ∈ source.setMuxes :=
    List.mem_filterMap.mpr ⟨(0, some state), mem_enumerate.mpr ⟨by norm_num, held⟩, rfl⟩
  have filled : source.setMuxes.length ≠ 0 := fun empty => by
    simp [List.length_eq_zero_iff.mp empty] at member
  simp [serializeConfiguration, filled]

/-- The selected inputs are restored, and lanes without one are disconnected. -/
theorem UBlock.roundTrip (source target : UBlock) (constant : Wire.ConstantConfig)
    (magnitude : Wire.Magnitude) :
    target.deserializeConfiguration constant magnitude source.connections =
      .ok { target with
        constant := decodeConstant constant magnitude, outputs := source.outputs } := by
  -- Connected lanes have an entry, and the others are disconnected by the reset.
  have restored : source.connections.foldlM (fun current connection =>
      assign Python.assignmentError current connection.output (some connection.input))
      (Vector.replicate 32 none) = .ok source.outputs := by
    apply foldlM_restores _ Wire.SelectConnection.output
    · intro state entry member
      obtain ⟨output, listed, found⟩ := List.mem_filterMap.mp member
      obtain ⟨input, set, rfl⟩ := Option.map_eq_some_iff.mp found
      obtain ⟨inside, same⟩ := mem_enumerate.mp listed
      exact ⟨inside, by rw [assign_of_lt inside, same, set]⟩
    · intro k absent
      -- A lane without an entry carries nothing.
      have empty : source.outputs.get k = none := by
        by_contra carried
        obtain ⟨input, held⟩ := Option.ne_none_iff_exists'.mp carried
        refine absent (List.mem_map.mpr ⟨⟨input, k.val⟩, ?_, rfl⟩)
        refine List.mem_filterMap.mpr ⟨(k.val, some input), ?_, rfl⟩
        exact mem_enumerate.mpr ⟨k.isLt, held⟩
      rw [empty]
      simp [Vector.get_eq_getElem]
  rw [deserializeConfiguration, restored]
  rfl

/-- The constants a selection block is documented to take. -/
def ConstantValue.Documented (constant : ConstantValue) : Prop :=
  constant.value ∈ ({-1, -1 / 10, 0, 1 / 10, 1} : Finset ℚ)

/-- Serialize a selection block, and apply the item to another one if there is an item. -/
def UBlock.transfer (source target : UBlock) : Except PyError UBlock :=
  match source.serializeConfiguration with
  | some (.selectConfig constant magnitude connections) =>
    target.deserializeConfiguration constant magnitude connections
  | _ => .ok target

/-- Every documented constant except minus one is decoded as what was encoded. -/
theorem UBlock.decodeConstant_value {u : UBlock} (documented : u.constant.Documented)
    (representable : u.constant.value ≠ -1) :
    (decodeConstant u.constantConfig u.magnitude).value = u.constant.value := by
  -- There are five documented values, and one of them is excluded.
  simp only [ConstantValue.Documented, Finset.mem_insert, Finset.mem_singleton] at documented
  rcases documented with minus | value | value | value | value
  · exact absurd minus representable
  -- The sign and the magnitude determine the four remaining values.
  · have sign : u.constantConfig = .negRef := by norm_num [constantConfig, value]
    have size : u.magnitude = .oneTenth := by norm_num [magnitude, value]
    rw [sign, size, value]
    simp [decodeConstant, ConstantValue.value, neg_div]
  · have sign : u.constantConfig = .ground := by simp [constantConfig, value]
    rw [sign, value]
    simp [decodeConstant, ConstantValue.value]
  · have sign : u.constantConfig = .posRef := by norm_num [constantConfig, value]
    have size : u.magnitude = .oneTenth := by norm_num [magnitude, value]
    rw [sign, size, value]
    simp [decodeConstant, ConstantValue.value]
  · have sign : u.constantConfig = .posRef := by norm_num [constantConfig, value]
    have size : u.magnitude = .one := by norm_num [magnitude, value]
    rw [sign, size, value]
    simp [decodeConstant, ConstantValue.value]

/-- Connected lanes are what the item is about. -/
theorem UBlock.connections_eq_nil_iff (u : UBlock) :
    u.connections = [] ↔ ∀ lane, u.outputs.get lane = none := by
  constructor
  · -- A lane with an input would have an entry.
    intro empty lane
    by_contra carried
    obtain ⟨input, held⟩ := Option.ne_none_iff_exists'.mp carried
    have member : (⟨input, lane.val⟩ : Wire.SelectConnection) ∈ u.connections :=
      List.mem_filterMap.mpr ⟨(lane.val, some input), mem_enumerate.mpr ⟨lane.isLt, held⟩, rfl⟩
    simp [empty] at member
  · intro free
    refine List.eq_nil_iff_forall_not_mem.mpr fun connection member => ?_
    obtain ⟨output, listed, found⟩ := List.mem_filterMap.mp member
    obtain ⟨inside, same⟩ := mem_enumerate.mp listed
    rw [← same, free] at found
    simp at found

/--
A selection block with a connection is restored, its constant unless it is minus one.

Without a connection no item is emitted, and the target keeps what it has.
-/
theorem UBlock.transfer_restores (source target : UBlock)
    (documented : source.constant.Documented) :
    ((∃ lane, source.outputs.get lane ≠ none) →
      ∃ restored, source.transfer target = .ok restored ∧ restored.outputs = source.outputs ∧
        (source.constant.value ≠ -1 → restored.constant.value = source.constant.value)) ∧
    ((∀ lane, source.outputs.get lane = none) →
      source.serializeConfiguration = none ∧ source.transfer target = .ok target) := by
  constructor
  · -- One connected lane is enough for an item, and the item replaces all lanes and the constant.
    intro found
    obtain ⟨lane, carried⟩ := found
    have filled : source.connections.length ≠ 0 := fun empty =>
      carried ((source.connections_eq_nil_iff.mp (List.length_eq_zero_iff.mp empty)) lane)
    have emitted : source.serializeConfiguration =
        some (.selectConfig source.constantConfig source.magnitude source.connections) := by
      simp [serializeConfiguration, filled]
    have ran : source.transfer target = .ok { target with
        constant := decodeConstant source.constantConfig source.magnitude
        outputs := source.outputs } := by
      simp only [transfer, emitted]
      exact roundTrip source target _ _
    exact ⟨_, ran, rfl, fun representable => decodeConstant_value documented representable⟩
  · -- Without an item there is nothing to apply.
    intro free
    have dropped : source.serializeConfiguration = none := by
      simp [serializeConfiguration, source.connections_eq_nil_iff.mpr free]
    exact ⟨dropped, by rw [transfer, dropped]⟩

/-- A disconnected source leaves a connected target as it is. -/
theorem UBlock.transfer_keeps_disconnected :
    ∃ source target : UBlock, source.constant.Documented ∧
      source.transfer target = .ok target ∧ target.outputs ≠ source.outputs := by
  -- The source is a new block, so that nothing is sent for it.
  refine ⟨UBlock.new, { UBlock.new with outputs := Vector.replicate 32 (some 3) }, ?_, ?_, ?_⟩
  · simp [ConstantValue.Documented, UBlock.new, ConstantValue.value]
  · rfl
  · decide

/-- A block with one connection and the constant true is restored. -/
theorem UBlock.transfer_restores_connected :
    ∃ restored, ({ outputs := Vector.replicate 32 (some 15), constant := .flag true } :
        UBlock).transfer UBlock.new = .ok restored ∧
      restored.outputs = Vector.replicate 32 (some 15) := by
  have documented : (ConstantValue.flag true).Documented := by
    simp [ConstantValue.Documented, ConstantValue.value]
  obtain ⟨restored, ran, outputs, _⟩ := (transfer_restores
    { outputs := Vector.replicate 32 (some 15), constant := .flag true } UBlock.new
    documented).1 ⟨0, by decide⟩
  exact ⟨restored, ran, outputs⟩

namespace BackplaneTBlock

/-- One entry of the sector table. -/
def entry (t : BackplaneTBlock) (k : Fin 9 × Fin 8) : Option (Fin 9) :=
  (t.sectors.get k.1).get k.2

/-- What a table entry has become after it was written and read back. -/
def recode (sectorOut : Fin 9) : Option (Fin 9) → Fin 9
  -- An unset entry is read as sector 0, and the own sector always as sector 8.
  | none => if sectorOut = 0 then 8 else 0
  | some source => if source = sectorOut then 8 else source

/-- The state read back is the recoded source, as a number. -/
theorem decoded_state (sectorOut : Fin 9) (source : Option (Fin 9)) :
    (if (sectorOut.val : Int) = encodeSource sectorOut source then 8
      else encodeSource sectorOut source) = ((recode sectorOut source).val : Int) := by
  -- Nine sectors and ten sources are few enough to be checked one by one.
  revert sectorOut source
  decide

/-- The entry a multiplexer index stands for. -/
def slot (mux : Wire.Mux) : Fin 9 × Fin 8 :=
  (⟨mux.index % 9, Nat.mod_lt _ (by decide)⟩, ⟨mux.index / 9 % 8, Nat.mod_lt _ (by decide)⟩)

/-- The index of an entry stands for that entry. -/
theorem slot_index (state : Int) (sectorOut : Fin 9) (lane : Fin 8) :
    slot ⟨state, 9 * lane.val + sectorOut.val⟩ = (sectorOut, lane) := by
  -- Dividing by nine separates the lane from the sector.
  simp only [slot, Prod.mk.injEq, Fin.ext_iff]
  omega

/-- Reading a written entry connects its recoded source, and changes no other entry. -/
theorem connectState_encoded (t : BackplaneTBlock) (sectorOut : Fin 9) (lane : Fin 8)
    (source : Option (Fin 9)) :
    ∃ next, t.connectState (encodeSource sectorOut source) (9 * lane.val + sectorOut.val) =
        .ok next ∧
      ∀ k, next.entry k = if k = (sectorOut, lane) then some (recode sectorOut source)
        else t.entry k := by
  -- Lane and sector are recovered from the index, and every number is in range.
  have row : (9 * lane.val + sectorOut.val) % 9 = sectorOut.val := by omega
  have column : (9 * lane.val + sectorOut.val) / 9 = lane.val := by omega
  have state := decoded_state sectorOut source
  have inside : ((0 : Int) ≤ (recode sectorOut source).val ∧
      ((recode sectorOut source).val : Int) < 9) ∧
      ((0 : Int) ≤ sectorOut.val ∧ (sectorOut.val : Int) < 9) ∧
      ((0 : Int) ≤ lane.val ∧ (lane.val : Int) < 8) := by omega
  simp only [connectState, row, column, state, connect, dif_pos inside]
  refine ⟨_, rfl, fun k => ?_⟩
  obtain ⟨sectorOut', lane'⟩ := k
  simp only [entry, Vector.get_eq_getElem, Int.toNat_natCast, Vector.getElem_set,
    Prod.mk.injEq, Fin.ext_iff]
  by_cases same : sectorOut.val = sectorOut'.val
  · by_cases own : lane.val = lane'.val
    · simp [same, own]
    · have foreign : ¬ lane'.val = lane.val := fun eq => own eq.symm
      simp [same, own, foreign]
  · have foreign : ¬ sectorOut'.val = sectorOut.val := fun eq => same eq.symm
    simp [same, foreign]

/-- Serialize a backplane block, and apply the item to another one. -/
def transfer (source target : BackplaneTBlock) : Except PyError BackplaneTBlock :=
  match source.serializeConfiguration with
  | some (.bplSwitchConfig muxes) => target.deserializeConfiguration muxes
  | _ => .ok target

/-- Every entry of the table is written under its own index. -/
theorem mem_muxes {t : BackplaneTBlock} {mux : Wire.Mux} :
    mux ∈ t.muxes ↔ ∃ sectorOut lane,
      mux = ⟨encodeSource sectorOut (t.entry (sectorOut, lane)), 9 * lane.val + sectorOut.val⟩ := by
  simp only [muxes, List.mem_flatMap, List.mem_map, List.mem_finRange, true_and, entry, eq_comm]

/-- A transfer succeeds, and leaves every entry recoded in the target. -/
theorem transfer_recodes (source target : BackplaneTBlock) :
    ∃ restored, source.transfer target = .ok restored ∧
      ∀ k, restored.entry k = some (recode k.1 (source.entry k)) := by
  -- The last entry shows that there are entries, and that their indices are not all zero.
  have last : (⟨encodeSource 8 (source.entry (8, 7)), 71⟩ : Wire.Mux) ∈ source.muxes :=
    mem_muxes.mpr ⟨8, 7, rfl⟩
  have filled : source.muxes.length ≠ 0 := fun empty => by
    simp [List.length_eq_zero_iff.mp empty] at last
  have indexed : ¬ (source.muxes.all fun mux => decide (mux.index = 0)) = true := by
    intro zeros
    have zero := List.all_eq_true.mp zeros _ last
    simp at zero
  obtain ⟨restored, ran, entries⟩ := foldlM_assigns
    (fun (current : BackplaneTBlock) (mux : Wire.Mux) => current.connectState mux.state mux.index)
    entry slot (fun k => some (recode k.1 (source.entry k))) source.muxes target
    (by
      intro state mux member
      obtain ⟨sectorOut, lane, rfl⟩ := mem_muxes.mp member
      obtain ⟨next, stepped, changed⟩ :=
        connectState_encoded state sectorOut lane (source.entry (sectorOut, lane))
      refine ⟨next, stepped, fun k => ?_⟩
      rw [changed, slot_index]
      by_cases own : k = (sectorOut, lane)
      · simp [own]
      · simp [own])
  refine ⟨restored, ?_, fun k => ?_⟩
  · have emitted : source.serializeConfiguration = some (.bplSwitchConfig source.muxes) := by
      simp [serializeConfiguration, filled]
    simp only [transfer, emitted, deserializeConfiguration, if_neg indexed]
    exact ran
  · rw [entries, if_pos]
    obtain ⟨sectorOut, lane⟩ := k
    exact List.mem_map.mpr ⟨_, mem_muxes.mpr ⟨sectorOut, lane, rfl⟩, slot_index _ _ _⟩

/-- Blocks with the same entries are the same. -/
theorem ext_entry {first second : BackplaneTBlock}
    (same : ∀ k, first.entry k = second.entry k) : first = second := by
  -- The table is determined by its rows, and a row by its entries.
  obtain ⟨firstSectors⟩ := first
  obtain ⟨secondSectors⟩ := second
  congr 1
  ext row rowInside column columnInside : 2
  exact same (⟨row, rowInside⟩, ⟨column, columnInside⟩)

/--
A backplane block is restored exactly when it has no unset entry and no sector below 8 is fed by itself.

What the target held before does not matter.
-/
theorem transfer_restores_iff (source target : BackplaneTBlock) :
    source.transfer target = .ok source ↔
      ∀ sectorOut lane, ∃ sectorIn, source.entry (sectorOut, lane) = some sectorIn ∧
        (sectorOut.val < 8 → sectorIn ≠ sectorOut) := by
  -- A transfer recodes every entry, so the question is which entries recoding leaves alone.
  obtain ⟨restored, ran, entries⟩ := transfer_recodes source target
  rw [ran, Except.ok.injEq]
  constructor
  · intro same sectorOut lane
    subst same
    have kept := entries (sectorOut, lane)
    refine ⟨_, kept, fun low same => ?_⟩
    -- A sector fed by itself would have been recoded as sector 8.
    rw [kept, recode, if_pos same, Option.some.injEq] at kept
    omega
  · intro condition
    apply ext_entry
    intro k
    obtain ⟨sectorOut, lane⟩ := k
    obtain ⟨sectorIn, held, foreign⟩ := condition sectorOut lane
    rw [entries, held, Option.some.injEq, recode]
    split
    · rename_i own
      have same : sectorIn = sectorOut := own
      by_cases low : sectorOut.val < 8
      · exact absurd same (foreign low)
      · omega
    · rfl

/-- A new block is not restored: its unset entries become connections. -/
theorem transfer_connects_unset :
    BackplaneTBlock.new.transfer BackplaneTBlock.new ≠ .ok BackplaneTBlock.new := by
  -- A restored block would have a connection where the new one has none.
  obtain ⟨restored, ran, entries⟩ := transfer_recodes BackplaneTBlock.new BackplaneTBlock.new
  rw [ran, ne_eq, Except.ok.injEq]
  intro same
  subst same
  have unset := entries (0, 0)
  simp [entry, new, emptySectors, Vector.get_eq_getElem] at unset

end BackplaneTBlock

end Pybrid
