import Pybrid.Redac.Numbers

/-! The function blocks of a cluster: math, coefficient, selection and summation blocks. -/

namespace Pybrid

/-- A coefficient: a float that its validator admits, from minus one to one. -/
abbrev Factor := {value : ℚ // (-1 ≤ value ∧ value ≤ 1) ∧ Doubles.round value = value}

namespace Factor

/-- The value of a new coefficient. -/
def default : Factor := ⟨1, ⟨by norm_num, le_rfl⟩, Doubles.round_one⟩

/-- The coefficient that is the float of a number in range. -/
def ofNumber (number : Number) (inside : -1 ≤ number.rounded ∧ number.rounded ≤ 1) : Factor :=
  ⟨number.rounded, inside, Doubles.round_round _⟩

/-- It is the float. -/
@[simp] theorem val_ofNumber (number : Number)
    (inside : -1 ≤ number.rounded ∧ number.rounded ≤ 1) :
    (ofNumber number inside).val = number.rounded := rfl

/-- Validate a value on assignment. -/
def validate (value : Number) : Except PyError Factor := do
  -- What is stored is the float, and it is the float that has to be in range.
  let float ← value.toFloat
  if inside : -1 ≤ float.val ∧ float.val ≤ 1 then return ⟨float.val, inside, float.property.1⟩
  else
    let shown := Number.shown (.float float)
    throw ⟨.value, s!"Value must be between -1.0 and 1.0, not {shown}. " ++
      "Your analog computer may support upscaling to increase this range."⟩

/-- A number whose float is in range is accepted, and its float is stored. -/
theorem validate_inside {value : Number} (inside : -1 ≤ value.rounded ∧ value.rounded ≤ 1) :
    validate value = .ok (ofNumber value inside) := by
  -- A number in range is far from those that do not fit.
  have fits : |value.rounded| < Doubles.limit :=
    (abs_le.mpr inside).trans_lt (lt_trans (by norm_num) Doubles.lt_limit)
  obtain ⟨float, converted⟩ := Number.toFloat_of_lt fits
  have stored := Number.val_of_toFloat converted
  simp only [validate, converted, bind, Except.bind, stored, dif_pos inside, pure, Except.pure,
    ofNumber]

/-- The coefficient that is a float in range. -/
def ofFloat (float : Double) (inside : -1 ≤ float.val ∧ float.val ≤ 1) : Factor :=
  ⟨float.val, inside, float.property.1⟩

/-- A float in range is accepted as it is. -/
theorem validate_float {float : Double} (inside : -1 ≤ float.val ∧ float.val ≤ 1) :
    validate (.float float) = .ok (ofFloat float inside) := by
  -- There is nothing to convert.
  simp only [validate, Number.toFloat, bind, Except.bind, dif_pos inside, pure, Except.pure, ofFloat]

/-- Any other number is refused. -/
theorem validate_outside {value : Number} (outside : ¬ (-1 ≤ value.rounded ∧ value.rounded ≤ 1)) :
    ∃ error, validate value = .error error := by
  -- It is either too large for a float, or its float is not in range.
  cases converted : value.toFloat with
  | error error => exact ⟨error, by simp [validate, converted, bind, Except.bind]⟩
  | ok float =>
    rw [← Number.val_of_toFloat converted] at outside
    simp [validate, converted, bind, Except.bind, dif_neg outside, throw, throwThe,
      MonadExceptOf.throw]

/-- What is stored is the float of the number. -/
theorem val_of_validate {value : Number} {factor : Factor} (valid : validate value = .ok factor) :
    factor.val = value.rounded := by
  by_cases inside : -1 ≤ value.rounded ∧ value.rounded ≤ 1
  · rw [validate_inside inside] at valid
    cases valid
    rfl
  · obtain ⟨error, refused⟩ := validate_outside inside
    rw [refused] at valid
    cases valid

/-- A coefficient that is received is accepted as it is. -/
@[simp] theorem validate_fraction (factor : Factor) :
    validate (.fraction factor.val) = .ok factor := by
  -- The type carries the bounds the validator asks for, and rounding leaves a float alone.
  have rounded : (Number.fraction factor.val).rounded = factor.val := factor.property.2
  have inside : -1 ≤ (Number.fraction factor.val).rounded ∧
      (Number.fraction factor.val).rounded ≤ 1 := by
    rw [rounded]
    exact factor.property.1
  rw [validate_inside inside]
  exact congrArg Except.ok (Subtype.ext rounded)

end Factor

/-- A coefficient block: one factor for each of the 32 lanes. -/
structure CBlock where
  elements : Vector Factor 32
  deriving DecidableEq

/-- An integrator: its initial value and its time constant. -/
structure Integration where
  ic : ℚ
  k : Int
  deriving DecidableEq, Repr

/-- A math block of eight integrators. -/
structure MIntBlock where
  elements : Vector Integration 8
  limiters : Vector Bool 8
  deriving DecidableEq, Repr

/-- The operations an element of an MDR block can be switched to. -/
inductive MdrOperation where
  | multiplication
  | square
  | division
  | squareRoot
  | identity
  deriving DecidableEq, Repr

/-- A math block of four elements with switchable operation. -/
structure MMDRBlock where
  elements : Vector MdrOperation 4
  deriving DecidableEq, Repr

/-- What sits in a math slot; multiplier and unknown blocks have nothing to configure. -/
inductive MBlock where
  | general
  | int (block : MIntBlock)
  | mul
  | mdr (block : MMDRBlock)
  deriving DecidableEq

/-- The constant of a selection block, a boolean or a number. -/
inductive ConstantValue where
  | flag (enabled : Bool)
  | number (value : ℚ)
  deriving DecidableEq, Repr

/-- What a constant compares as: true is one, false is zero. -/
def ConstantValue.value : ConstantValue → ℚ
  | .flag enabled => if enabled then 1 else 0
  | .number value => value

/-- A selection block: the input forked to each of the 32 lanes, and the constant. -/
structure UBlock where
  outputs : Vector (Option Int) 32
  constant : ConstantValue
  deriving DecidableEq, Repr

/-- A summation block: the lanes summed into each of the 16 outputs, and the upscaled lanes. -/
structure IBlock where
  outputs : Vector (Finset Nat) 16
  upscaling : Vector Bool 32
  deriving DecidableEq

/-- A lane is a position among 32. -/
theorem lane_lt (lane : Fin 32) : lane.val < 32 := lane.isLt

/-- An output is a position among 16. -/
theorem output_lt (output : Fin 16) : output.val < 16 := output.isLt

namespace UBlock

/-- A new selection block. -/
def new : UBlock := ⟨Vector.replicate 32 none, .flag false⟩

/-- Set the constant; the value is not checked. -/
def setConstant (u : UBlock) (value : ConstantValue) : UBlock := { u with constant := value }

/-- Refuse a lane that carries another input. -/
def checkOutput (u : UBlock) (input output : Int) : Except PyError Unit := do
  let lane ← Python.subscript 32 output
  match u.outputs.get lane with
  | none => return ()
  | some current =>
    -- Connecting the same input again is accepted.
    if current = input then return ()
    else throw ⟨.signalConnection,
      s!"Output {output} is already in use. Use the force argument to overwrite."⟩

/-- Let one lane carry an input. -/
def setOutput (u : UBlock) (input output : Int) : Except PyError UBlock := do
  let lane ← Python.subscript 32 output
  return { u with outputs := u.outputs.set lane.val (some input) lane.isLt }

/-- Fork an input to some lanes. -/
def connect (u : UBlock) (input : Int) (outputs : List Int) (force : Bool) :
    Except PyError UBlock := do
  -- All lanes are checked before the first one is changed.
  if ¬ force then outputs.forM (u.checkOutput input)
  outputs.foldlM (fun current output => current.setOutput input output) u

/-- A lane takes an input when it is free, or carries that input already. -/
theorem connect_lane (u : UBlock) (input : Int) (lane : Fin 32)
    (free : u.outputs.get lane = none ∨ u.outputs.get lane = some input) :
    u.connect input [(lane.val : Int)] false =
      .ok { u with outputs := u.outputs.set lane.val (some input) lane.isLt } := by
  -- The check accepts the lane, and the assignment that follows cannot fail.
  have position : Python.subscript 32 (lane.val : Int) = .ok lane := by
    rw [Python.subscript_of_bounds (by omega)]
    simp
  rcases free with free | free <;>
    simp [connect, checkOutput, setOutput, position, free, bind, Except.bind, pure, Except.pure]

/-- A lane that carries another input refuses. -/
theorem connect_lane_error {u : UBlock} {input current : Int} {lane : Fin 32}
    (busy : u.outputs.get lane = some current) (other : current ≠ input) :
    ∃ error, u.connect input [(lane.val : Int)] false = .error error := by
  -- The check raises before anything is assigned.
  have position : Python.subscript 32 (lane.val : Int) = .ok lane := by
    rw [Python.subscript_of_bounds (by omega)]
    simp
  simp [connect, checkOutput, position, busy, other, bind, Except.bind, throw, throwThe,
    MonadExceptOf.throw]

end UBlock

namespace IBlock

/-- A new summation block. -/
def new : IBlock := ⟨Vector.replicate 16 ∅, Vector.replicate 32 false⟩

/-- The first output other than this one that already sums one of the lanes. -/
def otherOutput (i : IBlock) (inputs : Finset Nat) (output : Int) : Option (Fin 16) :=
  -- The outputs are searched in their order, and the first hit is reported.
  (List.finRange 16).find? fun other =>
    (other.val : Int) ≠ output ∧ (i.outputs.get other ∩ inputs).Nonempty

/-- Python's rendering of a set. -/
def showInputs (inputs : Finset Nat) : String :=
  -- Sets of small integers are shown in ascending order.
  "\x7b" ++ String.intercalate ", " ((inputs.sort (· ≤ ·)).map toString) ++ "\x7d"

/-- Sum some lanes into an output. -/
def connect (i : IBlock) (inputs : Finset Nat) (output : Int) (force : Bool) :
    Except PyError IBlock := do
  let busy := if force then none else i.otherOutput inputs output
  match busy with
  | some other =>
    let shown := showInputs inputs
    throw ⟨.signalConnection, s!"One of inputs {shown} is already connected to output {other}. " ++
      "Use the force argument to ignore."⟩
  | none =>
    let index ← Python.subscript 16 output
    return { i with
      outputs := i.outputs.set index.val (i.outputs.get index ∪ inputs) index.isLt }

/-- Lanes that no other output sums are added to an output. -/
theorem connect_output (i : IBlock) (inputs : Finset Nat) (output : Fin 16)
    (free : i.otherOutput inputs output = none) :
    i.connect inputs output false = .ok { i with
      outputs := i.outputs.set output.val (i.outputs.get output ∪ inputs) output.isLt } := by
  -- Without another output that sums the lanes, only the subscript is left, and it is inside.
  have position : Python.subscript 16 (output.val : Int) = .ok output := by
    rw [Python.subscript_of_bounds (by omega)]
    simp
  simp [connect, free, position, bind, Except.bind, pure, Except.pure]

/-- Connecting either adds the lanes to a single output, or raises. -/
theorem connect_cases {i i' : IBlock} {inputs : Finset Nat} {output : Int}
    (connected : i.connect inputs output false = .ok i') :
    ∃ index : Fin 16, i' = { i with
      outputs := i.outputs.set index.val (i.outputs.get index ∪ inputs) index.isLt } := by
  -- The check and the subscript can raise; behind both there is one assignment.
  simp only [connect] at connected
  split at connected
  · simp [throw, throwThe, MonadExceptOf.throw] at connected
  · cases position : Python.subscript 16 output with
    | error error => simp [position, bind, Except.bind] at connected
    | ok index =>
      simp only [position, bind, Except.bind, pure, Except.pure, Except.ok.injEq] at connected
      exact ⟨index, connected.symm⟩

end IBlock

end Pybrid
