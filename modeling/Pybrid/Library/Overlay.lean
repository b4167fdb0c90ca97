import Mathlib

/-! Writing into a row of cells that grows as it has to: its length, and who wrote a cell last. -/

namespace Overlay

variable {α : Type*}

/-- Words that were written at a place, in the order in which they were written. -/
abbrev Writes (α : Type*) := List (ℕ × List α)

/-- Write a word at a place; the row is filled up with blanks as far as the word reaches. -/
def write (blank : α) (cells : List α) (place : ℕ) (word : List α) : List α :=
  let padded := cells ++ List.replicate (place + word.length - cells.length) blank
  padded.take place ++ word ++ padded.drop (place + word.length)

/-- The row after all writes, on no cells. -/
def cells (blank : α) (writes : Writes α) : List α :=
  writes.foldl (fun row entry => write blank row entry.1 entry.2) []

/-- The place behind the furthest word. -/
def furthest (writes : Writes α) : ℕ := (writes.map fun entry => entry.1 + entry.2.length).foldr max 0

/-- The word covers the place. -/
def Covers (place : ℕ) (entry : ℕ × List α) : Prop :=
  entry.1 ≤ place ∧ place < entry.1 + entry.2.length

instance (place : ℕ) (entry : ℕ × List α) : Decidable (Covers place entry) :=
  inferInstanceAs (Decidable (_ ∧ _))

/-- What was written last at a place, or a blank where nothing ever was. -/
def lastAt (blank : α) (writes : Writes α) (place : ℕ) : α :=
  match writes.reverse.find? fun entry => Covers place entry with
  | some entry => entry.2.getD (place - entry.1) blank
  | none => blank

/-- A write ends where the row or the word does. -/
@[simp] theorem length_write (blank : α) (row : List α) (place : ℕ) (word : List α) :
    (write blank row place word).length = max row.length (place + word.length) := by
  simp only [write, List.length_append, List.length_take, List.length_drop, List.length_replicate]
  omega

/-- A write is seen where the word covers, and nowhere else. -/
theorem getD_write (blank : α) (row : List α) (place : ℕ) (word : List α) (index : ℕ) :
    (write blank row place word).getD index blank =
      if Covers index (place, word) then word.getD (index - place) blank
      else row.getD index blank := by
  -- Blanks that fill the row up are what is read behind its end.
  have padding : ∀ count, (row ++ List.replicate count blank).getD index blank =
      row.getD index blank := by
    intro count
    simp only [List.getD_eq_getElem?_getD, List.getElem?_append]
    split
    · rfl
    · rename_i behind
      rw [List.getElem?_replicate, List.getElem?_eq_none (Nat.le_of_not_lt behind)]
      split <;> rfl
  have reached : place ≤ (row ++ List.replicate (place + word.length - row.length) blank).length := by
    rw [List.length_append, List.length_replicate]
    omega
  have front : ((row ++ List.replicate (place + word.length - row.length) blank).take place).length =
      place := List.length_take_of_le reached
  simp only [write, List.append_assoc]
  rw [List.getD_eq_getElem?_getD, List.getElem?_append, front]
  by_cases before : index < place
  · rw [if_pos before, if_neg fun covered => by simp only [Covers] at covered; omega,
      List.getElem?_take_of_lt before, ← List.getD_eq_getElem?_getD, padding]
  rw [if_neg before, List.getElem?_append]
  by_cases inside : index - place < word.length
  · rw [if_pos inside, if_pos ⟨by omega, by simp only; omega⟩, ← List.getD_eq_getElem?_getD]
  · rw [if_neg inside, if_neg fun covered => by simp only [Covers] at covered; omega,
      List.getElem?_drop, ← List.getD_eq_getElem?_getD, ← padding]
    congr 1
    omega

/-- The furthest end, with one more write in front. -/
@[simp] theorem furthest_cons (entry : ℕ × List α) (writes : Writes α) :
    furthest (entry :: writes) = max (entry.1 + entry.2.length) (furthest writes) := rfl

/-- The last word that covers a place decides. -/
theorem lastAt_append (blank : α) (writes : Writes α) (entry : ℕ × List α) (place : ℕ) :
    lastAt blank (writes ++ [entry]) place =
      if Covers place entry then entry.2.getD (place - entry.1) blank
      else lastAt blank writes place := by
  -- The search starts from the last write.
  rw [lastAt, List.reverse_append, List.reverse_singleton, List.singleton_append]
  by_cases covered : Covers place entry
  · simp only [List.find?_cons, decide_eq_true covered, if_pos covered]
  · simp only [List.find?_cons, decide_eq_false covered, if_neg covered, lastAt]

/-- The row reaches as far as the furthest write. -/
theorem length_cells (blank : α) (writes : Writes α) :
    (cells blank writes).length = furthest writes := by
  -- The row on which the writes go on keeps its length, or ends with the furthest of them.
  have general : ∀ (writes : Writes α) (row : List α),
      (writes.foldl (fun row entry => write blank row entry.1 entry.2) row).length =
        max row.length (furthest writes) := by
    intro writes
    induction writes with
    | nil => exact fun row => (Nat.max_zero _).symm
    | cons entry later ih =>
      intro row
      rw [List.foldl_cons, ih, length_write, furthest_cons, max_assoc]
  rw [cells, general, List.length_nil, Nat.zero_max]

/-- Each cell has what was written there last. -/
theorem getD_cells (blank : α) (writes : Writes α) (place : ℕ) :
    (cells blank writes).getD place blank = lastAt blank writes place := by
  -- The induction is on the writes from the last one on.
  induction writes using List.reverseRecOn with
  | nil => rfl
  | append_singleton earlier entry ih =>
    rw [cells, List.foldl_append, List.foldl_cons, List.foldl_nil, getD_write, lastAt_append]
    rw [cells] at ih
    split
    · rfl
    · exact ih

/-- No write reaches beyond a limit exactly if the furthest does not. -/
theorem furthest_le {writes : Writes α} {limit : ℕ} :
    furthest writes ≤ limit ↔ ∀ entry ∈ writes, entry.1 + entry.2.length ≤ limit := by
  induction writes with
  | nil => simp [furthest]
  | cons entry later ih => rw [furthest_cons, max_le_iff, ih, List.forall_mem_cons]

/-- The writes seen from a place of the row that none of them lies in front of. -/
def rebase (offset : ℕ) (writes : Writes α) : Writes α :=
  writes.map fun entry => (entry.1 - offset, entry.2)

/-- Seen from there the row ends that much earlier. -/
theorem furthest_rebase {offset : ℕ} {writes : Writes α}
    (behind : ∀ entry ∈ writes, offset ≤ entry.1) :
    furthest (rebase offset writes) = furthest writes - offset := by
  -- Each end moves by the offset, which no write lies in front of.
  induction writes with
  | nil => exact (Nat.zero_sub offset).symm
  | cons entry later ih =>
    obtain ⟨here, others⟩ := List.forall_mem_cons.mp behind
    have tail := ih others
    rw [rebase] at tail ⊢
    rw [List.map_cons, furthest_cons, furthest_cons, tail]
    simp only
    omega

/-- Seen from there the same word was written last. -/
theorem lastAt_rebase (blank : α) {offset place : ℕ} {writes : Writes α}
    (behind : ∀ entry ∈ writes, offset ≤ entry.1) (inside : offset ≤ place) :
    lastAt blank (rebase offset writes) (place - offset) = lastAt blank writes place := by
  -- The induction is on the writes from the last one on, as the search is.
  induction writes using List.reverseRecOn with
  | nil => rfl
  | append_singleton earlier entry ih =>
    have others : ∀ entry ∈ earlier, offset ≤ entry.1 :=
      fun other member => behind other (List.mem_append_left _ member)
    have here := behind entry (List.mem_append_right _ (List.mem_singleton_self entry))
    have same : Covers (place - offset) (entry.1 - offset, entry.2) ↔ Covers place entry := by
      simp only [Covers]
      omega
    have ih := ih others
    rw [rebase] at ih ⊢
    rw [List.map_append, List.map_singleton, lastAt_append, lastAt_append, ih]
    refine if_congr same ?_ rfl
    congr 1
    omega

end Overlay
