import Mathlib

/-! Stores with numbered slots, and what a sequence of assignments to them leaves behind. -/

namespace Slots

section Rule

variable {σ ω κ α ε : Type*}

/--
Assignments that agree with a source leave the source in every slot they name.

Every step assigns one slot and keeps the others; a slot that no step names keeps its content.
-/
theorem foldlM_assigns (step : σ → ω → Except ε σ) (get : σ → κ → α) [DecidableEq κ]
    (slot : ω → κ) (source : κ → α) :
    ∀ (entries : List ω) (base : σ),
      (∀ state, ∀ entry ∈ entries, ∃ next, step state entry = .ok next ∧
        ∀ k, get next k = if k = slot entry then source k else get state k) →
      ∃ final, entries.foldlM step base = .ok final ∧
        ∀ k, get final k = if k ∈ entries.map slot then source k else get base k := by
  -- The induction is on the assignments still to be made.
  intro entries
  induction entries with
  | nil => exact fun base _ => ⟨base, rfl, by simp⟩
  | cons entry later ih =>
    intro base steps
    obtain ⟨next, stepped, here⟩ := steps base entry (by simp)
    obtain ⟨final, ran, there⟩ := ih next fun state other member =>
      steps state other (by simp [member])
    refine ⟨final, ?_, ?_⟩
    · rw [List.foldlM_cons, stepped]
      exact ran
    · intro k
      rw [there, here]
      by_cases own : k = slot entry
      · simp [own]
      · simp [own]

end Rule

section Vectors

variable {α ω ε : Type*} {n : Nat}

/-- Assign one slot of a vector, failing outside of it. -/
def assign (outOfRange : ε) (values : Vector α n) (index : Nat) (value : α) :
    Except ε (Vector α n) :=
  if inside : index < n then .ok (values.set index value inside) else .error outOfRange

/-- Assigning one slot keeps the others. -/
theorem get_set (values : Vector α n) (slot index : Fin n) (value : α) :
    (values.set slot.val value slot.isLt).get index =
      if index = slot then value else values.get index := by
  -- Both readings compare the two positions, as numbers and as bounded indices.
  simp only [Vector.get_eq_getElem, Vector.getElem_set, Fin.ext_iff, eq_comm]

/-- The slots of a vector with their numbers. -/
def enumerate (values : Vector α n) : List (Nat × α) :=
  -- The numbers run upwards from zero.
  (List.finRange n).map fun index => (index.val, values.get index)

/-- Every enumerated entry is the slot it names. -/
theorem mem_enumerate {values : Vector α n} {entry : Nat × α} :
    entry ∈ enumerate values ↔ ∃ inside : entry.1 < n, values.get ⟨entry.1, inside⟩ = entry.2 := by
  -- Reading an entry off and building it are the two directions.
  simp only [enumerate, List.mem_map, List.mem_finRange, true_and]
  constructor
  · intro found
    obtain ⟨index, rfl⟩ := found
    exact ⟨index.isLt, rfl⟩
  · intro found
    obtain ⟨inside, same⟩ := found
    exact ⟨⟨entry.1, inside⟩, Prod.ext rfl same⟩

/--
Assigning slots of a source restores it, if the slots that are left out agree already.

The assignments may come in any order, and name a slot more than once.
-/
theorem foldlM_restores (step : Vector α n → ω → Except ε (Vector α n)) (index : ω → Nat)
    {base source : Vector α n} {entries : List ω}
    (steps : ∀ state, ∀ entry ∈ entries, ∃ inside : index entry < n,
      step state entry = .ok (state.set (index entry) (source.get ⟨index entry, inside⟩) inside))
    (rest : ∀ k : Fin n, k.val ∉ entries.map index → base.get k = source.get k) :
    entries.foldlM step base = .ok source := by
  -- Slots are read by number; beyond the vector there is nothing to read.
  obtain ⟨final, ran, slots⟩ := foldlM_assigns step
    (fun (values : Vector α n) (k : Nat) => values[k]?) index (fun k => source[k]?) entries base
    (by
      intro state entry member
      obtain ⟨inside, stepped⟩ := steps state entry member
      refine ⟨_, stepped, fun k => ?_⟩
      by_cases own : k = index entry
      · subst own
        simp [Vector.get_eq_getElem, inside]
      · have apart : index entry ≠ k := fun eq => own eq.symm
        simp [own, apart])
  rw [ran]
  congr 1
  ext k inside
  have slot := slots k
  by_cases named : k ∈ entries.map index
  · simpa [named, inside] using slot
  · have kept : base[k] = source[k] := rest ⟨k, inside⟩ named
    simp only [if_neg named] at slot
    simpa [inside, kept] using slot

/-- An enumeration names every slot. -/
theorem mem_enumerate_index (values : Vector α n) (k : Fin n) :
    k.val ∈ (enumerate values).map Prod.fst :=
  List.mem_map.mpr ⟨(k.val, values.get k), mem_enumerate.mpr ⟨k.isLt, rfl⟩, rfl⟩

/-- Assigning every slot of a source restores it, whatever was there before. -/
theorem foldlM_enumerate (step : Vector α n → ω → Except ε (Vector α n)) (written : Nat × α → ω)
    (base source : Vector α n)
    (steps : ∀ state entry (inside : entry.1 < n),
      step state (written entry) = .ok (state.set entry.1 entry.2 inside)) :
    ((enumerate source).map written).foldlM step base = .ok source := by
  rw [List.foldlM_map]
  apply foldlM_restores _ Prod.fst
  · intro state entry member
    obtain ⟨inside, same⟩ := mem_enumerate.mp member
    exact ⟨inside, by rw [steps state entry inside, same]⟩
  · -- No slot is left out, so that the base does not matter.
    intro k absent
    exact absurd (mem_enumerate_index source k) absent

end Vectors

end Slots
