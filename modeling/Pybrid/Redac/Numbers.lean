import Pybrid.Library.Doubles
import Pybrid.Library.Raising
import Pybrid.Redac.Entities

/-! The numbers that a program can pass, and the floats that come out of them. -/

namespace Pybrid

/-- A finite float. -/
abbrev Double := {value : ℚ // Doubles.round value = value ∧ |value| < Doubles.limit}

namespace Double

/-- The float 0.5. -/
def half : Double := ⟨1 / 2, by decide +kernel⟩

/-- The float 1.0. -/
def one : Double := ⟨1, by decide +kernel⟩

/-- The float 2.0. -/
def two : Double := ⟨2, by decide +kernel⟩

/-- The float 4.0. -/
def four : Double := ⟨4, by decide +kernel⟩

/-- The float nearest to a value, as long as there is one. -/
def ofValue (value : ℚ) (message : String) : Except PyError Double :=
  if fits : |Doubles.round value| < Doubles.limit then
    .ok ⟨Doubles.round value, Doubles.round_round value, fits⟩
  else .error ⟨.overflow, message⟩

/-- The absolute value of a float. -/
def abs (x : Double) : Double :=
  ⟨|x.val|, Doubles.round_abs x.property.1, by rw [abs_abs]; exact x.property.2⟩

/-- A float divided by a count. -/
def divide (x : Double) (count : Nat) : Double :=
  ⟨Doubles.round (x.val / count), Doubles.round_round _,
    -- No count makes a number larger.
    (Doubles.abs_round_le x.property.1 (Doubles.abs_div_natCast_le x.val count)).trans_lt
      x.property.2⟩

/-- A value whose nearest float is within the range of a float is converted to it. -/
theorem ofValue_eq {value : ℚ} (message : String)
    (fits : |Doubles.round value| < Doubles.limit) :
    ofValue value message = .ok ⟨Doubles.round value, Doubles.round_round value, fits⟩ :=
  dif_pos fits

/-- What is converted is the nearest float. -/
theorem val_of_ofValue {value : ℚ} {message : String} {x : Double}
    (converted : ofValue value message = .ok x) : x.val = Doubles.round value := by
  unfold ofValue at converted
  -- What is too large raises, so that the value is the rounding.
  split at converted
  case isTrue =>
    cases converted
    rfl
  case isFalse => cases converted

/-- Behind one, an eighth of a float is a float, too. -/
theorem val_divide_eight {x : Double} (large : 1 ≤ |x.val|) : (x.divide 8).val = x.val / 8 := by
  show Doubles.round (x.val / (8 : Nat)) = _
  rw [Nat.cast_ofNat, Doubles.round_div_eight large, x.property.1]

end Double

/-- A finite real number of Python. -/
inductive Number where
  | int (value : Int)
  | float (value : Double)
  | fraction (value : ℚ)

namespace Number

/-- The value of a number. -/
def value : Number → ℚ
  | .int value => value
  | .float value => value.val
  | .fraction value => value

/-- The absolute value of a number. -/
def abs : Number → Number
  | .int value => .int |value|
  | .float value => .float value.abs
  | .fraction value => .fraction |value|

/-- A number divided by a count: a float, unless it is a fraction. -/
def divide (x : Number) (count : Nat) : Except PyError Number :=
  match x with
  | .int value =>
    -- The quotient of two integers is rounded once, whatever their size.
    (Double.ofValue (value / count) "integer division result too large for a float").map .float
  | .float value => .ok (.float (value.divide count))
  | .fraction value => .ok (.fraction (value / count))

/-- A number as a float. -/
def toFloat : Number → Except PyError Double
  | .int value => Double.ofValue value "int too large to convert to float"
  | .float value => .ok value
  | .fraction value => Double.ofValue value "integer division result too large for a float"

/-- The value of a number as a float. -/
def rounded (x : Number) : ℚ := Doubles.round x.value

/-- How a number is shown; a float is shown by its exact value here. -/
def shown : Number → String
  | .int value => toString value
  | .float value => toString value.val
  | .fraction value => toString value

/-- The absolute value has the absolute value. -/
@[simp] theorem value_abs (x : Number) : x.abs.value = |x.value| := by
  cases x <;> simp [abs, value, Double.abs]

/-- A number as a float is its value, rounded. -/
theorem val_of_toFloat {x : Number} {float : Double} (converted : x.toFloat = .ok float) :
    float.val = x.rounded := by
  -- A float is kept, an integer and a fraction are rounded.
  cases x with
  | int value => exact Double.val_of_ofValue converted
  | float float =>
    cases converted
    exact float.property.1.symm
  | fraction value => exact Double.val_of_ofValue converted

/-- Every number whose float is within the range has one. -/
theorem toFloat_of_lt {x : Number} (fits : |x.rounded| < Doubles.limit) :
    ∃ float, x.toFloat = .ok float := by
  cases x with
  | int value => exact ⟨_, Double.ofValue_eq _ fits⟩
  | float value => exact ⟨value, rfl⟩
  | fraction value => exact ⟨_, Double.ofValue_eq _ fits⟩

/-- A quotient is the exact one, or the float nearest to it. -/
theorem value_of_divide {x quotient : Number} {count : Nat}
    (divided : x.divide count = .ok quotient) :
    quotient.value = x.value / count ∨ quotient.value = Doubles.round (x.value / count) := by
  -- A fraction divides exactly, the other kinds give a double.
  cases x with
  | int value =>
    obtain ⟨float, converted, rfl⟩ := Raising.except_map_eq_ok.mp divided
    exact .inr (Double.val_of_ofValue converted)
  | float value =>
    cases divided
    exact .inr rfl
  | fraction value =>
    cases divided
    exact .inl rfl

/-- Either way it is the same float. -/
theorem rounded_of_divide {x quotient : Number} {count : Nat}
    (divided : x.divide count = .ok quotient) :
    quotient.rounded = Doubles.round (x.value / count) := by
  rw [rounded]
  -- A double is its own rounding.
  rcases value_of_divide divided with exact | rounded
  · rw [exact]
  · rw [rounded, Doubles.round_round]

/-- A quotient whose float is within the range is computed. -/
theorem divide_of_lt {x : Number} {count : Nat}
    (fits : |Doubles.round (x.value / count)| < Doubles.limit) :
    ∃ quotient, x.divide count = .ok quotient := by
  -- Only the division of an integer checks the size of its result.
  cases x with
  | int value =>
    have converted := Double.ofValue_eq "integer division result too large for a float" fits
    exact ⟨_, congrArg (Except.map Number.float) converted⟩
  | float value => exact ⟨_, rfl⟩
  | fraction value => exact ⟨_, rfl⟩

/-- A bound on the exact quotient that is a float bounds the quotient. -/
theorem abs_value_of_divide_le {x quotient : Number} {count : Nat} {bound : ℚ}
    (divided : x.divide count = .ok quotient) (fixed : Doubles.round bound = bound)
    (bounded : |x.value / count| ≤ |bound|) : |quotient.value| ≤ |bound| := by
  -- Rounding does not carry a value past a bound that is a double itself.
  rcases value_of_divide divided with exact | rounded
  · rw [exact]
    exact bounded
  · rw [rounded]
    exact Doubles.abs_round_le fixed bounded

end Number

end Pybrid
