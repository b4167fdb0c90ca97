import Pybrid.Lucipy.LaneAllocation

/-! Analog ports that are not asked for by number: when the first free one is good enough. -/

namespace Pybrid

namespace Circuit

/-- The port is allocated for the direction, or its lane carries a general signal. -/
def Occupied (c : Circuit) (used : Vector Bool 8) (port : Fin 8) : Prop :=
  used.get port = true ∨ c.generalLanesUsed.get (aclLane port) = true

/-- An allocation that raises only if all ports are occupied, and else returns one that is not. -/
def Complete (c : Circuit) (used : Vector Bool 8) (kind : Fin 8 → ElementKind) :
    EStateM.Result PyError Circuit Element → Prop
  | .ok element _ => ∃ port, element = c.own (kind port) ∧ ¬ c.Occupied used port
  | .error _ _ => ∀ port, c.Occupied used port

/-- The first port that is not allocated has its lane, or no port is left at all. -/
def FirstFits (c : Circuit) (used : Vector Bool 8) : Prop :=
  ∀ port, nextFree used = some port → c.generalLanesUsed.get (aclLane port) = true →
    ∀ other, c.Occupied used other

/-- Without a free slot all are occupied. -/
theorem nextFree_none {n : Nat} {occupied : Vector Bool n} (full : nextFree occupied = none)
    (index : Fin n) : occupied.get index = true := by
  have held := List.find?_eq_none.mp full index (List.mem_finRange index)
  simpa using held

/-- What an allocation without a port does: it tries the first one that is not allocated. -/
structure TriesFirst (c : Circuit) (used : Vector Bool 8) (kind : Fin 8 → ElementKind)
    (outcome : EStateM.Result PyError Circuit Element) : Prop where
  full : nextFree used = none → ∃ error, outcome = .error error c
  busy : ∀ port, nextFree used = some port → c.generalLanesUsed.get (aclLane port) = true →
    ∃ error, outcome = .error error c
  free : ∀ port, nextFree used = some port → c.generalLanesUsed.get (aclLane port) = false →
    ∃ after, outcome = .ok (c.own (kind port)) after

/-- Trying the first port is complete exactly when that one fits. -/
theorem TriesFirst.complete_iff {c : Circuit} {used : Vector Bool 8} {kind : Fin 8 → ElementKind}
    {outcome : EStateM.Result PyError Circuit Element} (tries : c.TriesFirst used kind outcome) :
    c.Complete used kind outcome ↔ c.FirstFits used := by
  cases found : nextFree used with
  | none =>
    obtain ⟨error, raised⟩ := tries.full found
    rw [raised]
    refine ⟨fun _ port impossible => ?_, fun _ port => .inl (nextFree_none found port)⟩
    rw [found] at impossible
    cases impossible
  | some port =>
    -- Only this port is tried, whatever there is behind it.
    have first : c.FirstFits used ↔ (c.generalLanesUsed.get (aclLane port) = true →
        ∀ other, c.Occupied used other) := by
      constructor
      · exact fun fits => fits port found
      · intro fits other chosen
        obtain rfl := Option.some.inj (found.symm.trans chosen)
        exact fits
    rw [first]
    cases lane : c.generalLanesUsed.get (aclLane port) with
    | true =>
      obtain ⟨error, raised⟩ := tries.busy port found lane
      rw [raised]
      exact ⟨fun all _ => all, fun all => all rfl⟩
    | false =>
      obtain ⟨after, returned⟩ := tries.free port found lane
      rw [returned]
      refine ⟨fun _ impossible => (nomatch impossible), fun _ => ⟨port, rfl, ?_⟩⟩
      rintro (allocated | signal)
      · rw [nextFree_unoccupied found] at allocated
        cases allocated
      · rw [lane] at signal
        cases signal

/-- An input port that is not asked for by number. -/
theorem input_tries (c : Circuit) : c.TriesFirst c.aclInUsed .input (input none c) := by
  -- All ports taken, the first free one busy, and the first free one free.
  constructor
  · intro full
    simp only [input, Raising.get_bind, choosePort, full]
    exact ⟨_, rfl⟩
  · intro port found busy
    simp only [input, Raising.get_bind, choosePort, found, busy]
    exact ⟨_, rfl⟩
  · intro port found free
    simp only [input, Raising.get_bind, choosePort, found, free]
    exact ⟨_, rfl⟩

/-- An output port that is not asked for by number. -/
theorem output_tries (c : Circuit) : c.TriesFirst c.aclOutUsed .output (output none c) := by
  -- The same three cases on the other side.
  constructor
  · intro full
    simp only [output, Raising.get_bind, choosePort, full]
    exact ⟨_, rfl⟩
  · intro port found busy
    simp only [output, Raising.get_bind, choosePort, found, busy]
    exact ⟨_, rfl⟩
  · intro port found free
    simp only [output, Raising.get_bind, choosePort, found, free]
    exact ⟨_, rfl⟩

/-- Greedy allocation of analog ports is complete exactly when the first one fits. -/
theorem greedy_complete_iff (c : Circuit) :
    (c.Complete c.aclInUsed .input (input none c) ↔ c.FirstFits c.aclInUsed) ∧
      (c.Complete c.aclOutUsed .output (output none c) ↔ c.FirstFits c.aclOutUsed) :=
  ⟨(input_tries c).complete_iff, (output_tries c).complete_iff⟩

end Circuit

namespace Session

/-- There is a second one of eight. -/
theorem second_lt : 1 < 8 := by decide

/-- Two integrators, connected over so many lanes that the first analog lane is one of them. -/
def crowded : List CircuitCall :=
  let own (kind : ElementKind) : Element := ⟨kind, some 0⟩
  [.int 0 false, .int 0 false,
    .connect (own (.integrator ⟨0, first_lt⟩)) (own (.integrator ⟨1, second_lt⟩))
      (.int 200)]

/-- With lane 24 in use an input port is refused, though port 1 is free. -/
theorem input_incomplete : ∃ s, Transition.Reachable perform (start 0) s ∧
    ¬ s.circuit.Complete s.circuit.aclInUsed .input (Circuit.input none s.circuit) := by
  have used : (Transition.run perform (start 0) crowded).map (fun s =>
      (nextFree s.circuit.aclInUsed, s.circuit.generalLanesUsed.get (aclLane 0),
        s.circuit.aclInUsed.get 1, s.circuit.generalLanesUsed.get (aclLane 1))) =
      some (some 0, true, false, false) := by
    decide +kernel
  obtain ⟨s, ran, tables⟩ := Option.map_eq_some_iff.mp used
  simp only [Prod.mk.injEq] at tables
  obtain ⟨first, busy, allocated, signal⟩ := tables
  refine ⟨s, ⟨crowded, ran⟩, fun complete => ?_⟩
  -- Port 0 is the first that is free, and its lane is busy.
  obtain ⟨error, raised⟩ := (Circuit.input_tries s.circuit).busy 0 first busy
  rw [raised] at complete
  rcases complete 1 with held | carried
  · rw [allocated] at held
    cases held
  · rw [signal] at carried
    cases carried

end Session

end Pybrid
