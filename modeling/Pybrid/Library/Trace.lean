import Mathlib

/-! Histories of events, newest first, in which every event fits what came before it. -/

namespace Trace

variable {ε : Type*}

/-- Every event of the history fits the events before it. -/
def Always (fits : List ε → ε → Prop) : List ε → Prop
  | [] => True
  | event :: earlier => fits earlier event ∧ Always fits earlier

/-- An event anywhere in the history fits what is behind it. -/
theorem Always.at {fits : List ε → ε → Prop} {later earlier : List ε} {event : ε}
    (always : Always fits (later ++ event :: earlier)) : fits earlier event := by
  -- What came later is taken off one by one.
  induction later with
  | nil => exact always.1
  | cons _ later ih => exact ih always.2

/-- Events that each fit extend the history. -/
theorem Always.append {fits : List ε → ε → Prop} {earlier : List ε} (always : Always fits earlier) :
    ∀ {events : List ε}, (∀ later event between, events = later ++ event :: between →
      fits (between ++ earlier) event) → Always fits (events ++ earlier) := by
  intro events
  -- Each new event is seen from everything before it.
  induction events with
  | nil => exact fun _ => always
  | cons event events ih =>
    intro each
    refine ⟨each [] event events rfl, ih fun later other between whole => ?_⟩
    exact each (event :: later) other between (by simp [whole])

end Trace
