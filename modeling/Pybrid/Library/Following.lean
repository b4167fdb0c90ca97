import Mathlib.Data.Set.Card
import Mathlib.Logic.Relation

/-! Following a relation from a point on: where one gets, and when one has to stop. -/

namespace Following

variable {α : Type*} {leads : α → α → Prop}

/-- Everything one gets to from here. -/
def reach (leads : α → α → Prop) (start : α) : Set α :=
  {point | Relation.ReflTransGen leads start point}

/-- No further than a set that one does not get out of. -/
theorem reach_subset {start : α} {region : Set α} (inside : start ∈ region)
    (closed : ∀ point ∈ region, ∀ next, leads point next → next ∈ region) :
    reach leads start ⊆ region := by
  -- The induction follows the steps that lead away from the start.
  intro point reached
  induction reached with
  | refl => exact inside
  | tail _ step ih => exact closed _ ih _ step

/-- Where one gets from a point one gets to is where one gets to. -/
theorem reach_closed {start point next : α} (reached : point ∈ reach leads start)
    (step : leads point next) : next ∈ reach leads start :=
  Relation.ReflTransGen.tail reached step

/-- A point from which every way ends does not lead back to itself. -/
theorem not_circular {point : α} (ends : Acc (flip leads) point) :
    ¬Relation.TransGen leads point point := by
  -- A circle is as long from the next point on it, and that is what the induction descends to.
  induction ends with
  | intro point _ ih =>
    intro circle
    obtain ⟨next, step, back⟩ := Relation.TransGen.head'_iff.mp circle
    exact ih next step (Relation.TransGen.tail' back step)

/-- In a finite region without a circle every way ends. -/
theorem ends_of_finite {region : Set α} (finite : region.Finite)
    (closed : ∀ point ∈ region, ∀ next, leads point next → next ∈ region)
    (acyclic : ∀ point ∈ region, ¬Relation.TransGen leads point point) {start : α}
    (inside : start ∈ region) : Acc (flip leads) start := by
  -- Behind each step there are fewer points left than before it.
  have remaining : ∀ point ∈ region, ∀ next, leads point next →
      {far | Relation.TransGen leads next far} ⊂ {far | Relation.TransGen leads point far} := by
    intro point member next step
    refine ⟨fun far later => Relation.TransGen.head step later, fun whole => ?_⟩
    exact acyclic next (closed point member next step) (whole (Relation.TransGen.single step))
  have within : ∀ point ∈ region, {far | Relation.TransGen leads point far} ⊆ region := by
    intro point member far later
    induction later with
    | single step => exact closed point member _ step
    | tail _ step ih => exact closed _ ih _ step
  have descend : ∀ (count : ℕ) (point : α), point ∈ region →
      {far | Relation.TransGen leads point far}.ncard = count → Acc (flip leads) point := by
    intro count
    induction count using Nat.strong_induction_on with
    | _ count ih =>
      intro point member size
      refine Acc.intro point fun next step => ?_
      have fewer := Set.ncard_lt_ncard (remaining point member next step)
        (finite.subset (within point member))
      exact ih _ (size ▸ fewer) next (closed point member next step) rfl
  exact descend _ start inside rfl

end Following
