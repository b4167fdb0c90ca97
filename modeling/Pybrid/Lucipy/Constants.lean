import Pybrid.Lucipy.LaneAllocation
import Pybrid.Redac.BlockRoundTrip

/-! The values that constants drive in the serialized configuration. -/

namespace Pybrid

namespace Circuit

/-- The selection item of the serialized configuration reads as a constant of this value. -/
def ReadsConstant (c : Circuit) (value : ConstantValue) : Prop :=
  -- Without any connected lane there is no item, and nothing is driven.
  ∀ constant magnitude connections,
    c.ublock.serializeConfiguration = some (.selectConfig constant magnitude connections) →
      (UBlock.decodeConstant constant magnitude).value = value.value

/-- The serialized configuration lets a lane carry an output. -/
def SerializesLane (c : Circuit) (lane : Fin 32) (output : Nat) : Prop :=
  ∃ constant magnitude connections,
    c.ublock.serializeConfiguration = some (.selectConfig constant magnitude connections) ∧
      ⟨(output : Int), lane.val⟩ ∈ connections

/-- A lane that carries an output is serialized with it. -/
theorem serializesLane_of_carried {c : Circuit} {lane : Fin 32} {output : Nat}
    (carried : c.ublock.outputs.get lane = some (output : Int)) : c.SerializesLane lane output := by
  have member : ⟨(output : Int), lane.val⟩ ∈ c.ublock.connections :=
    List.mem_filterMap.mpr ⟨(lane.val, some (output : Int)),
      Slots.mem_enumerate.mpr ⟨lane.isLt, carried⟩, rfl⟩
  -- The item is not dropped, for it has this connection.
  have listed : c.ublock.connections.length ≠ 0 := fun empty => by
    rw [List.length_eq_zero_iff.mp empty] at member
    cases member
  exact ⟨_, _, _, if_neg listed, member⟩

/-- A documented constant other than minus one is read as it was set. -/
theorem readsConstant_of_value {c : Circuit} {value : ConstantValue}
    (same : c.ublock.constant.value = value.value) (documented : value.Documented)
    (representable : value.value ≠ -1) : c.ReadsConstant value := by
  intro constant magnitude connections serialized
  rw [UBlock.serializeConfiguration] at serialized
  -- A constant that is not set is refused by the serializer.
  split at serialized
  · cases serialized
  · cases serialized
    rw [← same]
    apply UBlock.decodeConstant_value
    · rw [ConstantValue.Documented, same]
      exact documented
    · rw [same]
      exact representable

/-- The constants that were handed out, and the one constant giver. -/
def giver (c : Circuit) : Nat × ConstantValue := (c.constantsAllocated, c.ublock.constant)

/-- What allots nothing leaves the constant giver alone. -/
theorem giver_of_allotment {c c' : Circuit} (same : c'.allotment = c.allotment) :
    c'.giver = c.giver := by
  simp only [allotment, Prod.mk.injEq] at same
  rw [giver, giver, same.2.2.1, same.2.2.2.2.2]

/-- What allocating leaves alone: everything but the tables of the elements and what selects them. -/
def unallocated (c : Circuit) : Circuit :=
  -- Everything an allocation writes but the constants is put back.
  { c with
    integratorsUsed := Vector.replicate 8 false
    multipliersUsed := Vector.replicate 4 false
    aclInUsed := Vector.replicate 8 false
    aclOutUsed := Vector.replicate 8 false
    aclSelect := Vector.replicate 8 ""
    m0block := { c.m0block with elements := Vector.replicate 8 ⟨0, 0⟩ } }

/-- Allocating an integrator only allocates. -/
theorem int_leaves (ic : ℚ) (slow : Bool) : Raising.Leaves unallocated (int ic slow) := by
  intro c
  rw [int, Raising.get_bind]
  cases nextFree c.integratorsUsed <;> rfl

/-- Allocating a multiplier only allocates. -/
theorem mul_leaves : Raising.Leaves unallocated mul := by
  intro c
  rw [mul, Raising.get_bind]
  cases nextFree c.multipliersUsed <;> rfl

/-- Allocating an analog input port only allocates. -/
theorem input_leaves (port : Option (Fin 8)) : Raising.Leaves unallocated (input port) := by
  intro c
  rw [input, Raising.get_bind]
  -- The port is refused, or its lane is busy, or it is marked.
  cases choosePort "ACL_IN" c.aclInUsed port with
  | error error => rfl
  | ok port => cases busy : c.generalLanesUsed.get (aclLane port) <;> simp only [busy] <;> rfl

/-- Allocating an analog output port only allocates. -/
theorem output_leaves (port : Option (Fin 8)) : Raising.Leaves unallocated (output port) := by
  intro c
  rw [output, Raising.get_bind]
  -- As for an input.
  cases choosePort "ACL_OUT" c.aclOutUsed port with
  | error error => rfl
  | ok port => cases busy : c.generalLanesUsed.get (aclLane port) <;> simp only [busy] <;> rfl

/-- Every allocation but that of a constant only allocates. -/
theorem allocation_leaves {call : CircuitCall} {code : EStateM PyError Circuit Element}
    (other : ∀ value, call ≠ .const value) (asked : call.allocation = some code) :
    Raising.Leaves unallocated code := by
  -- Of the calls that hand something out, const alone writes the constant.
  cases call with
  | int ic slow =>
    cases asked
    exact int_leaves ic slow
  | mul =>
    cases asked
    exact mul_leaves
  | const value => exact absurd rfl (other value)
  | input port =>
    cases asked
    exact input_leaves port
  | output port =>
    cases asked
    exact output_leaves port
  | connect source target weight => cases asked
  | probe source adcChannel => cases asked

/-- Asking for a constant raises when there are two, and sets the constant giver otherwise. -/
theorem const_cases (c : Circuit) (value : ConstantValue) :
    (2 ≤ c.constantsAllocated ∧ ∃ error, const value c = .error error c) ∨
      c.constantsAllocated < 2 ∧ const value c =
        .ok (c.own (.constant c.constantsAllocated)) { c with
          constantsAllocated := c.constantsAllocated + 1
          ublock := c.ublock.setConstant value } := by
  rw [const, Raising.get_bind]
  -- The third constant is refused, whatever its value.
  by_cases full : 2 ≤ c.constantsAllocated
  · rw [if_pos full]
    exact .inl ⟨full, _, rfl⟩
  · rw [if_neg full]
    exact .inr ⟨not_le.mp full, rfl⟩

end Circuit

namespace Session

/-- A constant drives a value in the serialized configuration, on every lane it was connected to. -/
structure Drives (s : Session) (element : Element) (value : ConstantValue) : Prop where
  reads : s.circuit.ReadsConstant value
  carries : ∀ connection ∈ s.log, connection.source = element.kind → ∀ lane ∈ connection.lanes,
    s.circuit.SerializesLane lane (constantOutputForLane lane.val)

/--
The call does not take the constant giver away from a constant.

A constant that is still to be had is asked for with a value that can be serialized, and with the
value of the one that is there.
-/
def KeepsConstants (s : Session) : CircuitAction → Prop
  | .call (.const value) =>
    2 ≤ s.circuit.constantsAllocated ∨ (value.Documented ∧ value.value ≠ -1 ∧
      (s.circuit.constantsAllocated = 0 ∨ s.circuit.ublock.constant.value = value.value))
  | _ => True

instance (constant : ConstantValue) : Decidable constant.Documented :=
  inferInstanceAs (Decidable (_ ∈ _))

instance (s : Session) (action : CircuitAction) : Decidable (s.KeepsConstants action) :=
  match action with
  | .call (.const _) => inferInstanceAs (Decidable (_ ∨ _))
  | .call (.int _ _) | .call .mul | .call (.input _) | .call (.output _) => isTrue trivial
  | .call (.connect _ _ _) | .call (.probe _ _) | .connect _ _ _ => isTrue trivial

/-- Only asking for a constant sets the constant giver. -/
theorem act_giver {s next : Session} {action : CircuitAction}
    (other : ∀ value, action ≠ .call (.const value)) (acted : s.act action = some next) :
    next.circuit.giver = s.circuit.giver := by
  -- Allocations, connections and probes each leave the constant alone.
  cases act_cases acted with
  | performs performed =>
    cases performed with
    | allocates asked =>
      rw [handOut_circuit]
      have leaves := Circuit.allocation_leaves
        (fun value same => other value (congrArg CircuitAction.call same)) asked
      exact (leaves.map Circuit.giver) s.circuit
    | connects =>
      rw [record_circuit]
      exact Circuit.giver_of_allotment (Circuit.connectWeight_leaves _ _ (.finite _) s.circuit)
    | measures => exact Circuit.giver_of_allotment (Circuit.probe_leaves _ _ s.circuit)
  | connects => exact Circuit.giver_of_allotment (Circuit.connectWeight_leaves _ _ _ s.circuit)

/-- A constant was handed out, and the constant giver is set to a value. -/
structure Gives (value : ConstantValue) (s : Session) : Prop where
  sound : s.Sound
  given : 0 < s.circuit.constantsAllocated ∧ s.circuit.ublock.constant.value = value.value

/-- The constant giver keeps its value over every call that asks for the same one. -/
theorem Gives.act {value : ConstantValue} {s next : Session} {action : CircuitAction}
    (gives : Gives value s) (keeps : s.KeepsConstants action) (acted : s.act action = some next) :
    Gives value next := by
  have sound := gives.sound.act acted
  -- Only a further constant could put another value in its place.
  by_cases asks : ∃ asked, action = .call (.const asked)
  · obtain ⟨asked, rfl⟩ := asks
    cases acted
    refine ⟨sound, ?_⟩
    rw [handOut_circuit]
    obtain ⟨_, error, raised⟩ | ⟨left, returned⟩ := s.circuit.const_cases asked
    · -- Both constants are taken, and the call changes nothing.
      rw [raised]
      exact gives.given
    · rw [returned]
      obtain ⟨_, _, first | same⟩ := keeps.resolve_left (not_le.mpr left)
      · exact absurd first gives.given.1.ne'
      · exact ⟨Nat.succ_pos _, same.symm.trans gives.given.2⟩
  · have other : ∀ asked, action ≠ .call (.const asked) := fun asked same => asks ⟨asked, same⟩
    obtain ⟨allocated, constant⟩ := Prod.mk.inj (act_giver other acted)
    refine ⟨sound, ?_⟩
    rw [allocated, constant]
    exact gives.given

/-- A constant that has just been handed out. -/
theorem gives_handOut {s : Session} (sound : s.Sound) {value : ConstantValue} {element : Element}
    {circuit : Circuit} (returned : Circuit.const value s.circuit = .ok element circuit) :
    Gives value (s.handOut (.ok element circuit)) ∧ ∃ id, element.kind = .constant id := by
  have handed := sound.handOut (s.circuit.const_allocates value)
  rw [returned] at handed
  -- The call returned, so that a constant was left.
  obtain ⟨_, error, raised⟩ | ⟨_, same⟩ := s.circuit.const_cases value
  · rw [returned] at raised
    cases raised
  · rw [returned] at same
    cases same
    exact ⟨⟨handed, Nat.succ_pos _, rfl⟩, _, rfl⟩

/-- A constant that the giver has the value of drives it. -/
theorem Gives.drives {value : ConstantValue} {s : Session} (gives : Gives value s)
    (documented : value.Documented) (representable : value.value ≠ -1) {element : Element}
    (constant : ∃ id, element.kind = .constant id) : s.Drives element value where
  -- The value is read back, and the lanes of the element are serialized.
  reads := Circuit.readsConstant_of_value gives.given.2 documented representable
  carries connection member source lane taken :=
    Circuit.serializesLane_of_carried
      (gives.sound.constants connection member (source ▸ constant) lane taken)

/--
A constant drives its value as long as no other value is asked for.

The run up to the call, the call that returns the constant, and the run behind it all meet the
condition.
-/
theorem constant_keeps_value (circuitId : Nat) (before after : List CircuitAction)
    (value : ConstantValue) (s final : Session) (element : Element) (circuit : Circuit)
    (ran : Transition.run act (start circuitId) before = some s)
    (returned : Circuit.const value s.circuit = .ok element circuit)
    (later : Transition.run act (s.handOut (.ok element circuit)) after = some final)
    (keeps : Transition.Meets act KeepsConstants (start circuitId)
      (before ++ .call (.const value) :: after)) :
    final.Drives element value ∧ ∀ other : ConstantValue, other.value ≠ value.value →
      final.KeepsConstants (.call (.const other)) →
        ∃ error, Circuit.const other final.circuit = .error error final.circuit := by
  have sound : s.Sound := acted_sound ⟨before, ran⟩
  obtain ⟨gives, constant⟩ := gives_handOut sound returned
  obtain ⟨asked, behind⟩ := keeps.right ran
  -- The call has returned, so that its value is one that can be serialized.
  obtain ⟨_, error, raised⟩ | ⟨left, _⟩ := s.circuit.const_cases value
  · rw [returned] at raised
    cases raised
  obtain ⟨documented, representable, _⟩ := asked.resolve_left (not_le.mpr left)
  have called : s.act (.call (.const value)) = some (s.handOut (.ok element circuit)) := by
    rw [← returned]
    rfl
  have given : Gives value final :=
    Transition.run_preserves (fun _ _ _ gives keeps acted => gives.act keeps acted) after _ final
      gives (behind _ called) later
  refine ⟨given.drives documented representable constant, ?_⟩
  intro other differs kept
  obtain ⟨_, error, raised⟩ | ⟨free, _⟩ := final.circuit.const_cases other
  · exact ⟨error, raised⟩
  · -- A constant of another value is not asked for while there is one.
    obtain ⟨_, _, none | same⟩ := kept.resolve_left (not_le.mpr free)
    · exact absurd none given.given.1.ne'
    · exact absurd (same.symm.trans given.given.2) differs

/-- An integrator, and what is done to it with two constants. -/
def twoConstants (second : ConstantValue) : List CircuitAction :=
  [.call (.const second),
    .call (.connect ⟨.constant 0, some 0⟩ ⟨.integrator ⟨0, first_lt⟩, some 0⟩
      (.float .half))]

/-- The run up to a constant that is returned, and the run behind it. -/
theorem run_const {s : Session} {before : List CircuitAction} {value : ConstantValue}
    {element : Element} {circuit : Circuit} {initial : Session}
    (ran : Transition.run act initial before = some s)
    (returned : Circuit.const value s.circuit = .ok element circuit) (after : List CircuitAction) :
    Transition.run act initial (before ++ .call (.const value) :: after) =
      Transition.run act (s.handOut (.ok element circuit)) after := by
  -- The call is one step of the run.
  have called : s.act (.call (.const value)) = some (s.handOut (.ok element circuit)) := by
    rw [← returned]
    rfl
  rw [Transition.run_append, ran, Option.bind_some, Transition.run, called, Option.bind_some]

/-- A session in which the first constant can be handed out. -/
theorem first_constant :
    ∃ s element circuit,
      Transition.run act (start 0) [.call (.int 0 false)] = some s ∧
        Circuit.const (.number 1) s.circuit = .ok element circuit := by
  -- No constant is taken after the integrator.
  have left : (Transition.run act (start 0) [.call (.int 0 false)]).map
      (fun s => s.circuit.constantsAllocated) = some 0 := by
    decide +kernel
  obtain ⟨s, ran, left⟩ := Option.map_eq_some_iff.mp left
  obtain ⟨full, _⟩ | ⟨_, returned⟩ := s.circuit.const_cases (.number 1)
  · rw [left] at full
    cases full
  · exact ⟨s, _, _, ran, returned⟩

/-- A second constant of the same value leaves the first one alone. -/
theorem constant_keeps_value_twice :
    ∃ s element circuit final,
      Transition.run act (start 0) [.call (.int 0 false)] = some s ∧
      Circuit.const (.number 1) s.circuit = .ok element circuit ∧
      Transition.run act (s.handOut (.ok element circuit)) (twoConstants (.flag true)) =
        some final ∧
      final.Drives element (.number 1) := by
  obtain ⟨s, element, circuit, ran, returned⟩ := first_constant
  -- The second constant asks for the same value.
  have whole : (Transition.run act (start 0) ([.call (.int 0 false)] ++
      .call (.const (.number 1)) :: twoConstants (.flag true))).isSome = true := by
    decide +kernel
  obtain ⟨final, later⟩ := Option.isSome_iff_exists.mp whole
  rw [run_const ran returned] at later
  exact ⟨s, element, circuit, final, ran, returned, later,
    (constant_keeps_value 0 _ _ _ s final element circuit ran returned later (by decide +kernel)).1⟩

/-- A second constant of another value takes the constant giver. -/
theorem second_constant_overwrites :
    ∃ s element circuit final,
      Transition.run act (start 0) [.call (.int 0 false)] = some s ∧
      Circuit.const (.number 1) s.circuit = .ok element circuit ∧
      Transition.run act (s.handOut (.ok element circuit)) (twoConstants (.number (1 / 10))) =
        some final ∧
      ¬ final.Drives element (.number 1) := by
  obtain ⟨s, element, circuit, ran, returned⟩ := first_constant
  have whole : (Transition.run act (start 0) ([.call (.int 0 false)] ++
      .call (.const (.number 1)) :: twoConstants (.number (1 / 10)))).map
        (fun s => s.circuit.ublock.serializeConfiguration) =
      some (some (.selectConfig .posRef .oneTenth [⟨15, 0⟩])) := by
    decide +kernel
  obtain ⟨final, later, serialized⟩ := Option.map_eq_some_iff.mp whole
  rw [run_const ran returned] at later
  refine ⟨s, element, circuit, final, ran, returned, later, fun drives => ?_⟩
  -- A tenth is read where one was asked for.
  have read := drives.reads _ _ _ serialized
  revert read
  decide +kernel

end Session

end Pybrid
