import Mathlib

/-! Rearranging some of the elements of a list among the positions they are at. -/

namespace Positions

variable {α : Type*}

/-- The positions of the elements that have a property, in ascending order. -/
def positions (p : α → Bool) : List α → List Nat
  | [] => []
  | x :: xs =>
    if p x then 0 :: (positions p xs).map (· + 1) else (positions p xs).map (· + 1)

/-- Assign the values to the slots, one after the other. -/
def write (elements : List α) (slots : List Nat) (values : List α) : List α :=
  (slots.zip values).foldl (fun current assigned => current.set assigned.1 assigned.2) elements

@[simp] theorem length_positions (p : α → Bool) (elements : List α) :
    (positions p elements).length = (elements.filter p).length := by
  induction elements with
  | nil => rfl
  | cons x xs ih => cases here : p x <;> simp [positions, here, ih]

/-- A loop over all positions that keeps those with the property finds them. -/
theorem filter_range (p : α → Bool) (elements : List α) :
    (List.range elements.length).filter (fun index => (elements[index]?).any p) =
      positions p elements := by
  -- The positions of the tail are those of the list, less one.
  induction elements with
  | nil => rfl
  | cons x xs ih =>
    rw [List.length_cons, List.range_succ_eq_map, List.filter_cons, List.filter_map, positions, ← ih]
    rfl

/-- The positions are listed in ascending order. -/
theorem pairwise_positions (p : α → Bool) (elements : List α) :
    (positions p elements).Pairwise (· < ·) := by
  induction elements with
  | nil => exact List.Pairwise.nil
  | cons x xs ih =>
    -- Shifting keeps the order, and zero comes before all that is shifted.
    have shifted : ((positions p xs).map (· + 1)).Pairwise (· < ·) := by
      simpa [List.pairwise_map] using ih
    cases here : p x with
    | true => simpa [positions, here] using shifted
    | false => simpa [positions, here] using shifted

/-- The elements at these positions are the ones with the property. -/
theorem map_positions (p : α → Bool) (elements : List α) :
    (positions p elements).map (fun index => elements[index]?) = (elements.filter p).map some := by
  induction elements with
  | nil => rfl
  | cons x xs ih => cases here : p x <;> simp [positions, here, ← ih, Function.comp_def]

/-- Writing behind the first element leaves it alone. -/
theorem write_shift (x : α) (xs : List α) (slots : List Nat) (values : List α) :
    write (x :: xs) (slots.map (· + 1)) values = x :: write xs slots values := by
  -- The induction is on the slots still to be written.
  induction slots generalizing xs values with
  | nil => rfl
  | cons slot slots ih =>
    cases values with
    | nil => rfl
    | cons value values => exact ih (xs.set slot value) values

/-- Writing to the positions of a list that starts with an element that is replaced. -/
theorem write_positions_pos {p : α → Bool} {x value : α} {xs values : List α} (here : p x = true) :
    write (x :: xs) (positions p (x :: xs)) (value :: values) =
      value :: write xs (positions p xs) values := by
  rw [positions, if_pos here]
  -- The later positions are all moved by one.
  exact write_shift value xs (positions p xs) values

/-- Writing to the positions of a list that starts with an element that stays. -/
theorem write_positions_neg {p : α → Bool} {x : α} {xs values : List α} (here : p x = false) :
    write (x :: xs) (positions p (x :: xs)) values =
      x :: write xs (positions p xs) values := by
  rw [positions, if_neg (by simp [here])]
  -- The later positions are all moved by one.
  exact write_shift x xs (positions p xs) values

/-- Writing the elements with the property to where they are changes nothing. -/
theorem write_self (p : α → Bool) (elements : List α) :
    write elements (positions p elements) (elements.filter p) = elements := by
  induction elements with
  | nil => rfl
  | cons x xs ih =>
    -- An element is written back where it was taken from, or passed over.
    cases here : p x with
    | true => rw [List.filter_cons_of_pos here, write_positions_pos here, ih]
    | false => rw [List.filter_cons_of_neg (by simp [here]), write_positions_neg here, ih]

/-- The values are in the place of the elements with the property, and the others as before. -/
structure Rearranged (p : α → Bool) (elements values written : List α) : Prop where
  replaced : written.filter p = values
  others : ∀ (index : Nat) (x : α), elements[index]? = some x → p x = false → written[index]? = some x
  slots : written.map p = elements.map p
  kept : written.filter (fun x => !p x) = elements.filter fun x => !p x

/-- As many values with the property as there are elements with it can be written. -/
theorem write_rearranged (p : α → Bool) (elements : List α) :
    ∀ {values : List α}, values.length = (elements.filter p).length → (∀ x ∈ values, p x = true) →
      Rearranged p elements values (write elements (positions p elements) values) := by
  -- The induction is on the elements, with the values still to be written.
  induction elements with
  | nil =>
    intro values fits _
    rw [List.eq_nil_of_length_eq_zero fits]
    exact ⟨rfl, fun _ _ found => by simp at found, rfl, rfl⟩
  | cons x xs ih =>
    intro values fits all
    cases here : p x with
    | true =>
      cases values with
      | nil => simp [here] at fits
      | cons value values =>
        obtain ⟨first, rest⟩ := List.forall_mem_cons.mp all
        obtain ⟨replaced, others, slots, kept⟩ := ih (by simpa [here] using fits) rest
        rw [write_positions_pos here]
        refine ⟨by simp [first, replaced], ?_, by simp [first, here, slots], by simp [first, here, kept]⟩
        intro index y found other
        cases index with
        | zero =>
          simp only [List.getElem?_cons_zero, Option.some.injEq] at found
          rw [found, other] at here
          cases here
        | succ index => exact others index y (by simpa using found) other
    | false =>
      obtain ⟨replaced, others, slots, kept⟩ := ih (by simpa [here] using fits) all
      rw [write_positions_neg here]
      refine ⟨by simp [here, replaced], ?_, by simp [here, slots], by simp [here, kept]⟩
      intro index y found other
      cases index with
      | zero => simpa using found
      | succ index => simpa using others index y (by simpa using found) other

/-- Values that are a permutation of the elements with the property make the list one of itself. -/
theorem Rearranged.perm {p : α → Bool} {elements values written : List α}
    (rearranged : Rearranged p elements values written)
    (permuted : values.Perm (elements.filter p)) : written.Perm elements := by
  -- Both lists fall apart into the elements with the property and the others.
  have apart : written.Perm (values ++ elements.filter fun x => !p x) := by
    rw [← rearranged.kept, ← rearranged.replaced]
    exact (List.filter_append_perm p written).symm
  exact apart.trans ((permuted.append_right _).trans (List.filter_append_perm p elements))

end Positions
