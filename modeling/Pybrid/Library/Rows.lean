import Mathlib

/-! Tables laid out row by row, read at a position, and ranges cut into pieces of one size. -/

namespace Rows

section Tables

variable {α β : Type*} {encode : α → List β} {width : Nat}

/-- Rows of one width are as long as all of them together. -/
theorem length_flatMap (each : ∀ entry, (encode entry).length = width) (entries : List α) :
    (entries.flatMap encode).length = entries.length * width := by
  simp [List.length_flatMap, each]

/-- What lies at the place of a row is the row. -/
theorem take_drop_flatMap (each : ∀ entry, (encode entry).length = width) (entries : List α)
    {i : Nat} (inside : i < entries.length) :
    ((entries.flatMap encode).drop (i * width)).take width = encode entries[i] := by
  -- The rows before it are skipped as a whole, and those behind it are cut off.
  have front : ((entries.take i).flatMap encode).length = i * width := by
    rw [length_flatMap each, List.length_take, Nat.min_eq_left inside.le]
  have split : entries.flatMap encode =
      (entries.take i).flatMap encode ++ (encode entries[i] ++
        (entries.drop (i + 1)).flatMap encode) := by
    conv_lhs => rw [← List.take_append_drop i entries, List.drop_eq_getElem_cons inside]
    rw [List.flatMap_append, List.flatMap_cons]
  rw [split, List.drop_left' front, List.take_left' (each _)]

/-- The entry in a row and a column of a table stands at the column behind the rows before. -/
theorem getElem?_grid (entry : Nat → Nat → β) {rows columns row column : Nat} (listed : row < rows)
    (inside : column < columns) :
    ((List.range rows).flatMap fun r => (List.range columns).map (entry r))[row * columns + column]? =
      some (entry row column) := by
  -- All rows have the same length.
  have each : ∀ r, ((List.range columns).map (entry r)).length = columns := by simp
  have here := take_drop_flatMap each (List.range rows) (i := row) (by simpa using listed)
  have at_ := congrArg (fun piece => piece[column]?) here
  simpa [List.getElem?_take, inside, List.getElem?_drop] using at_

end Tables

section Pieces

/-- How many pieces of a size cover so many entries. -/
def pieces (size total : Nat) : Nat :=
  (total + size - 1) / size

/-- The piece with this number, which may be cut short by the end. -/
def piece (size total number : Nat) : List Nat :=
  List.range' (number * size) (min (number * size + size) total - number * size)

/-- The first so many pieces cover a range, as far as it goes. -/
theorem flatMap_piece (size total count : Nat) :
    (List.range count).flatMap (piece size total) = List.range (min (count * size) total) := by
  induction count with
  | zero => simp
  | succ count ih =>
    rw [List.range_succ, List.flatMap_append, ih, List.flatMap_singleton, piece,
      List.range_eq_range']
    -- Either the piece starts where the range ends, or it lies behind the end and is empty.
    rcases Nat.le_total (count * size) total with within | beyond
    · rw [Nat.min_eq_left within]
      have next : (count + 1) * size = count * size + size := by ring
      have joined : List.range' 0 (count * size) ++ List.range' (0 + 1 * (count * size))
            (min (count * size + size) total - count * size) =
          List.range' 0 (count * size + (min (count * size + size) total - count * size)) :=
        List.range'_append
      rw [Nat.one_mul, Nat.zero_add] at joined
      rw [joined, ← List.range_eq_range', next]
      congr 1
      omega
    · have empty : min (count * size + size) total - count * size = 0 := by omega
      have same : min ((count + 1) * size) total = min (count * size) total := by
        have next : (count + 1) * size = count * size + size := by ring
        omega
      rw [empty, same]
      simp [List.range_eq_range']

/-- The pieces of a range put together are the range. -/
theorem flatMap_pieces {size : Nat} (positive : 0 < size) (total : Nat) :
    (List.range (pieces size total)).flatMap (piece size total) = List.range total := by
  rw [flatMap_piece, Nat.min_eq_right]
  -- The number of pieces is rounded up.
  have rounded := Nat.div_add_mod (total + size - 1) size
  have below := Nat.mod_lt (total + size - 1) positive
  unfold pieces
  rw [Nat.mul_comm]
  omega

/-- A piece has something in it, and no more than its size. -/
theorem length_piece {size total number : Nat} (positive : 0 < size)
    (counted : number < pieces size total) :
    0 < (piece size total number).length ∧ (piece size total number).length ≤ size ∧
      number * size + (piece size total number).length ≤ total := by
  -- The piece starts before the end of the rows.
  have room : number * size < total := by
    unfold pieces at counted
    have := (Nat.lt_div_iff_mul_lt positive).mp counted
    omega
  simp only [piece, List.length_range']
  omega

end Pieces

/-- Leaving out elements is mapping them to nothing. -/
theorem flatMap_filter {α β : Type*} (keep : α → Bool) (f : α → List β) (all : List α) :
    (all.filter keep).flatMap f = all.flatMap fun a => if keep a then f a else [] := by
  induction all with
  | nil => rfl
  | cons a later ih =>
    rw [List.filter_cons, List.flatMap_cons, ← ih]
    cases keep a <;> simp

/-- A rearrangement of a mapped list is a rearrangement of the list, mapped. -/
theorem exists_perm_map {α β : Type*} {f : α → β} {mapped : List β} {entries : List α}
    (perm : mapped.Perm (entries.map f)) : ∃ order : List α, order.Perm entries ∧ mapped = order.map f := by
  -- Being the image of an entry is a relation, and a permutation can be moved across it.
  have related : List.Forall₂ (fun b a => b = f a) (entries.map f) entries :=
    List.forall₂_map_left_iff.mpr (List.forall₂_same.mpr fun _ _ => rfl)
  obtain ⟨order, same, moved⟩ := List.perm_comp_forall₂ perm related
  refine ⟨order, moved, ?_⟩
  rw [← List.forall₂_eq_eq_eq]
  exact List.forall₂_map_right_iff.mpr same

end Rows
