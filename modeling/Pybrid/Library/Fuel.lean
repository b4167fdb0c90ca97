import Mathlib

/-! Computations with fuel that return the same value from some amount of fuel on. -/

namespace Fuel

variable {m : Type → Type} [Monad m] {α β : Type}

/-- From some amount of fuel on the computation returns this value. -/
def Settles (computation : Nat → m α) (value : α) : Prop :=
  ∃ enough, ∀ fuel, enough ≤ fuel → computation fuel = pure value

/-- A computation that needs no fuel settles. -/
theorem settles_pure (value : α) : Settles (fun _ => (pure value : m α)) value :=
  ⟨0, fun _ _ => rfl⟩

/-- A computation settles that goes on to another one with one unit of fuel less. -/
theorem Settles.succ {computation next : Nat → m α} {value : α} (settled : Settles next value)
    (unrolls : ∀ fuel, computation (fuel + 1) = next fuel) : Settles computation value := by
  obtain ⟨enough, returns⟩ := settled
  refine ⟨enough + 1, fun fuel bound => ?_⟩
  -- Enough fuel for one more round is at least one.
  obtain ⟨fuel, rfl⟩ : ∃ less, fuel = less + 1 := ⟨fuel - 1, by omega⟩
  rw [unrolls fuel, returns fuel (by omega)]

/-- A sequence settles when its parts do. -/
theorem Settles.bind [LawfulMonad m] {first : Nat → m α} {value : α} {second : Nat → α → m β} {result : β}
    (settled : Settles first value) (next : Settles (fun fuel => second fuel value) result) :
    Settles (fun fuel => first fuel >>= second fuel) result := by
  -- The larger of the two amounts is enough for both parts.
  obtain ⟨enough, returns⟩ := settled
  obtain ⟨more, continues⟩ := next
  refine ⟨max enough more, fun fuel bound => ?_⟩
  show first fuel >>= second fuel = pure result
  rw [returns fuel (le_trans (le_max_left _ _) bound), pure_bind]
  exact continues fuel (le_trans (le_max_right _ _) bound)

/-- A loop settles when the computation for each of its elements does. -/
theorem mapM_settles [LawfulMonad m] (body : Nat → α → m β) :
    ∀ elements : List α, (∀ element ∈ elements, ∃ value, Settles (body · element) value) →
      ∃ values, Settles (fun fuel => elements.mapM (body fuel)) values := by
  -- The induction is on the elements still to be computed.
  intro elements
  induction elements with
  | nil => exact fun _ => ⟨[], 0, fun _ _ => by simp⟩
  | cons element later ih =>
    intro each
    obtain ⟨value, settled⟩ := each element (by simp)
    obtain ⟨values, rest⟩ := ih fun other member => each other (by simp [member])
    refine ⟨value :: values, ?_⟩
    simp only [List.mapM_cons]
    exact settled.bind (rest.bind (settles_pure (value :: values)))

/-- A loop settles on the values on which the computations for its elements settle. -/
theorem mapM_settles_map [LawfulMonad m] {body : Nat → α → m β} {value : α → β} :
    ∀ elements : List α, (∀ element ∈ elements, Settles (body · element) (value element)) →
      Settles (fun fuel => elements.mapM (body fuel)) (elements.map value) := by
  intro elements
  -- The list needs the greatest fuel that one of its elements needs.
  induction elements with
  | nil => exact fun _ => ⟨0, fun _ _ => by simp⟩
  | cons element later ih =>
    intro each
    have rest := ih fun other member => each other (List.mem_cons_of_mem _ member)
    simp only [List.mapM_cons, List.map_cons]
    exact (each element List.mem_cons_self).bind (rest.bind (settles_pure _))

/-- A loop whose elements all return something good returns a list of good values. -/
theorem mapM_returns [LawfulMonad m] {body : α → m β} {good : β → Prop} :
    ∀ elements : List α, (∀ element ∈ elements, ∃ value, body element = pure value ∧ good value) →
      ∃ values, elements.mapM body = pure values ∧ ∀ value ∈ values, good value := by
  -- The induction is on the elements, with the good values collected on the way.
  intro elements
  induction elements with
  | nil => exact fun _ => ⟨[], by simp, by simp⟩
  | cons element later ih =>
    intro each
    obtain ⟨value, returned, fine⟩ := each element (by simp)
    obtain ⟨values, rest, allFine⟩ := ih fun other member => each other (by simp [member])
    refine ⟨value :: values, ?_, ?_⟩
    · rw [List.mapM_cons, returned, pure_bind, rest, pure_bind]
    · intro other member
      rcases List.mem_cons.mp member with rfl | member
      · exact fine
      · exact allFine other member

/-- Loops that do the same for each of their elements do the same. -/
theorem mapM_congr [LawfulMonad m] {first second : α → m β} {elements : List α}
    (each : ∀ element ∈ elements, first element = second element) :
    elements.mapM first = elements.mapM second := by
  induction elements with
  | nil => rfl
  | cons element later ih =>
    rw [List.mapM_cons, List.mapM_cons, each element List.mem_cons_self,
      ih fun other member => each other (List.mem_cons_of_mem _ member)]

end Fuel
