import Mathlib

/-! Locations of entities, and the Python conventions their accessors rely on. -/

namespace Pybrid

/-- The exception classes the modelled code raises. -/
inductive ErrorKind where
  | assertion
  | index
  | value
  | type
  | attribute
  | exception
  | entityDoesNotExist
  | routing
  | signalConnection
  | overflow
  deriving DecidableEq, Repr

/-- A raised exception. -/
structure PyError where
  /-- Its class. -/
  kind : ErrorKind
  /-- Its message. -/
  message : String
  deriving DecidableEq, Repr

namespace Python

/-- A failed `assert` without a message. -/
def assertionError : PyError := ⟨.assertion, ""⟩

/-- Reading a list element that does not exist. -/
def indexError : PyError := ⟨.index, "list index out of range"⟩

/-- Assigning a list element that does not exist. -/
def assignmentError : PyError := ⟨.index, "list assignment index out of range"⟩

/-- The position a subscript selects in a list of this length. -/
def subscript (length : Nat) (index : Int) : Except PyError (Fin length) :=
  -- Negative subscripts count from the end of the list.
  if front : 0 ≤ index ∧ index < length then .ok ⟨index.toNat, by omega⟩
  else if back : -length ≤ index ∧ index < 0 then .ok ⟨(length + index).toNat, by omega⟩
  else .error indexError

/-- The number of elements of a range. -/
def rangeLength (start stop step : Int) : Nat :=
  -- Both directions round the distance up to a whole number of steps.
  if 0 < step then ((stop - start + step - 1) / step).toNat
  else if step < 0 then ((start - stop - step - 1) / -step).toNat
  else 0

/-- The elements of `range(start, stop, step)`. -/
def range (start stop step : Int) : List Int :=
  -- The last element is the one before the stop is reached or passed.
  (List.range (rangeLength start stop step)).map fun (i : Nat) => start + i * step

/-- A subscript inside the list selects itself. -/
theorem subscript_of_bounds {length : Nat} {index : Int} (bounds : 0 ≤ index ∧ index < length) :
    subscript length index = .ok ⟨index.toNat, by omega⟩ := by
  -- An index from the front is taken as it is.
  simp [subscript, bounds]

/-- An upward range of step one holds the integers from its start up to its stop. -/
theorem mem_range_up {start stop value : Int} :
    value ∈ range start stop 1 ↔ start ≤ value ∧ value < stop := by
  -- The element at an offset is the start plus that offset.
  simp only [range, rangeLength, List.mem_map, List.mem_range]
  constructor
  · intro found
    obtain ⟨offset, bound, rfl⟩ := found
    simp only [zero_lt_one, if_true, Int.ediv_one] at bound
    omega
  · intro bounds
    refine ⟨(value - start).toNat, ?_, ?_⟩
    · simp only [zero_lt_one, if_true, Int.ediv_one]
      omega
    · omega

/-- A downward range of step one holds the integers from its start down to its stop. -/
theorem mem_range_down {start stop value : Int} :
    value ∈ range start stop (-1) ↔ stop < value ∧ value ≤ start := by
  -- The element at an offset is the start minus that offset.
  simp only [range, rangeLength, List.mem_map, List.mem_range]
  have direction : ¬ (0 : Int) < -1 := by omega
  constructor
  · intro found
    obtain ⟨offset, bound, rfl⟩ := found
    simp only [direction, if_false, if_pos (by omega : (-1 : Int) < 0), Int.neg_neg,
      Int.ediv_one] at bound
    omega
  · intro bounds
    refine ⟨(start - value).toNat, ?_, ?_⟩
    · simp only [direction, if_false, if_pos (by omega : (-1 : Int) < 0), Int.neg_neg,
        Int.ediv_one]
      omega
    · omega

end Python

/-- The location of a carrier. -/
structure CarrierLoc where
  stackId : Int
  carrierId : Int
  deriving DecidableEq, Repr

/-- The location of a cluster. -/
structure ClusterLoc where
  stackId : Int
  carrierId : Int
  clusterId : Int
  deriving DecidableEq, Repr

/-- The location of a lane. -/
structure LaneLoc where
  stackId : Int
  carrierId : Int
  clusterId : Int
  laneId : Int
  deriving DecidableEq, Repr

/-- The carrier of a lane. -/
def LaneLoc.carrier (loc : LaneLoc) : CarrierLoc := ⟨loc.stackId, loc.carrierId⟩

/-- The cluster of a lane. -/
def LaneLoc.cluster (loc : LaneLoc) : ClusterLoc := ⟨loc.stackId, loc.carrierId, loc.clusterId⟩

end Pybrid
