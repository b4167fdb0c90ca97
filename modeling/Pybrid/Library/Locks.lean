import Mathlib

/-! Threads that hold locks while they wait for others. -/

namespace Locks

variable {τ μ : Type*}

/-- Which locks each thread holds, and which one it waits for. -/
structure View (τ μ : Type*) where
  holds : τ → μ → Prop
  waits : τ → μ → Prop

/-- A thread waits for one lock while it holds another. -/
def View.Nested (v : View τ μ) (thread : τ) (held wanted : μ) : Prop :=
  v.holds thread held ∧ v.waits thread wanted

/-- Two threads each hold a lock that the other waits for. -/
def View.Crossed (v : View τ μ) : Prop :=
  ∃ thread other held wanted, thread ≠ other ∧
    v.Nested thread held wanted ∧ v.Nested other wanted held

/-- No two threads are crossed when all nesting is under one lock or over it, never both at once. -/
theorem View.not_crossed_of_guard {v : View τ μ} (guard : μ)
    (nesting : ∀ thread held wanted, v.Nested thread held wanted → held = guard ∨ wanted = guard)
    (apart : ∀ thread other lock, lock ≠ guard → v.Nested thread guard lock →
      ¬v.Nested other lock guard)
    (irreflexive : ∀ thread lock, ¬v.Nested thread lock lock) : ¬v.Crossed := by
  intro crossed
  obtain ⟨thread, other, held, wanted, _, inner, outer⟩ := crossed
  -- One of the two threads holds the guard, and the other one waits for it.
  rcases nesting thread held wanted inner with rfl | rfl
  · by_cases same : wanted = held
    · exact irreflexive thread held (same ▸ inner)
    · exact apart thread other wanted same inner outer
  · by_cases same : held = wanted
    · exact irreflexive thread held (same ▸ inner)
    · exact apart other thread held same outer inner

end Locks
