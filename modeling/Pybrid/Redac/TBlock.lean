import Pybrid.Redac.Entities

/-! The T-blocks: lane multiplexers of a carrier, and sector multiplexers of a backplane. -/

namespace Pybrid

/-- A carrier T-block: the source sector of every lane and destination sector. -/
structure TBlock where
  /-- The multiplexers, four to a lane. -/
  muxes : Vector (Option Int) 96
  deriving DecidableEq, Repr

/-- A backplane T-block: the source sector, if any, of every destination sector and lane. -/
structure BackplaneTBlock where
  /-- The sector table, eight lanes to a destination sector. -/
  sectors : Vector (Vector (Option (Fin 9)) 8) 9
  deriving DecidableEq, Repr

namespace TBlock

/-- Every destination sector listens to itself. -/
def identityMuxes : Vector (Option Int) 96 :=
  -- The sector is the position within the four multiplexers of a lane.
  Vector.ofFn fun index => some (index.val % 4 : Nat)

/-- A new T-block. -/
def new : TBlock := ⟨identityMuxes⟩

/-- The position of a multiplexer. -/
def index (dstSector sectorLane : Int) : Except PyError (Fin 96) :=
  -- The two assertions bound the position.
  if inside : (0 ≤ dstSector ∧ dstSector < 4) ∧ (0 ≤ sectorLane ∧ sectorLane < 24) then
    .ok ⟨(sectorLane * 4 + dstSector).toNat, by omega⟩
  else .error Python.assertionError

/-- Let a destination sector listen to a source sector on one lane. -/
def connect (t : TBlock) (srcSector dstSector sectorLane : Int) : Except PyError TBlock :=
  -- Both sector checks raise the same message.
  if ¬ (0 ≤ srcSector ∧ srcSector < 4) then
    .error ⟨.exception, "Connections between cluster only allowed between 0 to 3! " ++
      "(0: backplane, 1-3: cluster)"⟩
  else if ¬ (0 ≤ dstSector ∧ dstSector < 4) then
    .error ⟨.exception, "Connections between cluster only allowed between 0 to 3! " ++
      "(0: backplane, 1-3: cluster)"⟩
  else if ¬ (0 ≤ sectorLane ∧ sectorLane < 24) then
    .error ⟨.exception, "Connections between cluster only allowed between 0 to 23 lane indices!"⟩
  else
    (index dstSector sectorLane).map fun position =>
      { t with muxes := t.muxes.set position.val (some srcSector) position.isLt }

/-- The sector a destination sector listens to on one lane. -/
def source (t : TBlock) (dstSector sectorLane : Int) : Except PyError (Option Int) :=
  (index dstSector sectorLane).map t.muxes.get

/-- Back to listening to itself. -/
def reset (t : TBlock) : TBlock := { t with muxes := identityMuxes }

/-- A connection is stored under its destination, and nothing else changes. -/
theorem connect_source {t t' : TBlock} {srcSector dstSector sectorLane : Int}
    (connected : t.connect srcSector dstSector sectorLane = .ok t') (sector lane : Int) :
    t'.source sector lane =
      if sector = dstSector ∧ lane = sectorLane then .ok (some srcSector)
      else t.source sector lane := by
  -- Accepted arguments are in range, where positions determine sector and lane.
  simp only [connect] at connected
  split at connected
  · simp at connected
  split at connected
  · simp at connected
  split at connected
  · simp at connected
  rename_i dstInside laneInside
  have inside : (0 ≤ dstSector ∧ dstSector < 4) ∧ (0 ≤ sectorLane ∧ sectorLane < 24) := by omega
  simp only [index, dif_pos inside, Except.map, Except.ok.injEq] at connected
  subst connected
  simp only [source, index]
  by_cases own : sector = dstSector ∧ lane = sectorLane
  · obtain ⟨rfl, rfl⟩ := own
    simp [inside, Except.map, Vector.get_eq_getElem]
  · rw [if_neg own]
    by_cases present : (0 ≤ sector ∧ sector < 4) ∧ (0 ≤ lane ∧ lane < 24)
    · -- Four sectors to a lane: two positions are the same only if sector and lane are.
      have apart : (sectorLane * 4 + dstSector).toNat ≠ (lane * 4 + sector).toNat := by omega
      simp [present, Except.map, Vector.get_eq_getElem, Vector.getElem_set_ne _ _ apart]
    · simp [present, Except.map]

end TBlock

namespace BackplaneTBlock

/-- A table without connections. -/
def emptySectors : Vector (Vector (Option (Fin 9)) 8) 9 :=
  Vector.replicate 9 (Vector.replicate 8 none)

/-- A new backplane T-block. -/
def new : BackplaneTBlock := ⟨emptySectors⟩

/-- Let a destination sector listen to a source sector on one lane. -/
def connect (t : BackplaneTBlock) (srcSector dstSector sectorLane : Int) :
    Except PyError BackplaneTBlock :=
  -- Three assertions stand in front of the assignment.
  if inside : (0 ≤ srcSector ∧ srcSector < 9) ∧ (0 ≤ dstSector ∧ dstSector < 9) ∧
      (0 ≤ sectorLane ∧ sectorLane < 8) then
    let row := t.sectors.get ⟨dstSector.toNat, by omega⟩
    .ok { t with
      sectors := t.sectors.set dstSector.toNat
        (row.set sectorLane.toNat (some ⟨srcSector.toNat, by omega⟩) (by omega)) (by omega) }
  else .error Python.assertionError

/-- The sector a destination sector listens to on one lane. -/
def source (t : BackplaneTBlock) (dstSector sectorLane : Int) : Except PyError (Option Int) := do
  -- No assertion here: Python's subscripts decide.
  let sector ← Python.subscript 9 dstSector
  let lane ← Python.subscript 8 sectorLane
  return ((t.sectors.get sector).get lane).map fun source => (source.val : Int)

/-- Drop every connection. -/
def reset (t : BackplaneTBlock) : BackplaneTBlock := { t with sectors := emptySectors }

/-- Inside the table a lookup is the entry itself. -/
theorem source_of_bounds (t : BackplaneTBlock) {sector lane : Int}
    (inside : (0 ≤ sector ∧ sector < 9) ∧ (0 ≤ lane ∧ lane < 8)) :
    t.source sector lane =
      .ok (((t.sectors.get ⟨sector.toNat, by omega⟩).get ⟨lane.toNat, by omega⟩).map
        fun source => (source.val : Int)) := by
  -- Both subscripts are inside, and select themselves.
  simp only [source]
  rw [Python.subscript_of_bounds inside.1, Python.subscript_of_bounds inside.2]
  rfl

/-- A connection is stored under its destination, and nothing else changes. -/
theorem connect_source {t t' : BackplaneTBlock} {srcSector dstSector sectorLane : Int}
    (connected : t.connect srcSector dstSector sectorLane = .ok t') {sector lane : Int}
    (inside : (0 ≤ sector ∧ sector < 9) ∧ (0 ≤ lane ∧ lane < 8)) :
    t'.source sector lane =
      if sector = dstSector ∧ lane = sectorLane then .ok (some srcSector)
      else t.source sector lane := by
  -- Only one row is rewritten, and in it only one lane.
  simp only [connect] at connected
  split at connected
  swap
  · simp at connected
  rename_i admitted
  simp only [Except.ok.injEq] at connected
  subst connected
  -- The arguments are in range, so that no subscript wraps around.
  rw [source_of_bounds _ inside, source_of_bounds _ inside]
  simp only [Vector.get_eq_getElem, Vector.getElem_set]
  by_cases row : sector = dstSector
  · subst row
    by_cases column : lane = sectorLane
    · subst column
      simp [admitted.1.1]
    · have apart : sectorLane.toNat ≠ lane.toNat := by omega
      simp [column, apart]
  · have apart : dstSector.toNat ≠ sector.toNat := by omega
    simp [row, apart]

end BackplaneTBlock

end Pybrid
