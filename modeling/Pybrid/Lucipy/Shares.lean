import Pybrid.Lucipy.Circuit

/-! How a weight is shared among lanes, and what is left of it in floats. -/

namespace Pybrid

namespace Circuit

/-- The number of lanes a value is spread over. -/
def lanesFor (weight : ℚ) : Nat := max 1 ⌈|weight| / 8⌉₊

/-- What the lanes carry together: the nearest float to the share of one, on each of them. -/
def carried (weight : ℚ) : ℚ := lanesFor weight * Doubles.round (weight / lanesFor weight)

/-- The share of one lane is a float as it stands. -/
def ExactShare (weight : ℚ) : Prop :=
  Doubles.round (weight / lanesFor weight) = weight / lanesFor weight

/-- An integer whose eighth does not fit a float. -/
def Overflows : Number → Prop
  | .int weight => Doubles.limit ≤ |Doubles.round (|(weight : ℚ)| / 8)|
  | .float _ | .fraction _ => False

/-- A lane is needed whatever the weight. -/
theorem lanesFor_pos (weight : ℚ) : (0 : ℚ) < lanesFor weight := by
  exact_mod_cast lt_of_lt_of_le one_pos (le_max_left 1 ⌈|weight| / 8⌉₊)

/-- Every weight is spread so thin that upscaling reaches it. -/
theorem share_small (weight : ℚ) : |weight / lanesFor weight| ≤ 8 := by
  -- The number of lanes is at least an eighth of the weight.
  have enough : |weight| / 8 ≤ lanesFor weight :=
    (Nat.le_ceil _).trans (by exact_mod_cast le_max_right _ _)
  rw [abs_div, abs_of_pos (lanesFor_pos weight), div_le_iff₀ (lanesFor_pos weight)]
  linarith

/-- A weight whose share is a float is carried as it is. -/
theorem ExactShare.carried_eq {weight : ℚ} (exact : ExactShare weight) : carried weight = weight := by
  rw [carried, exact, mul_div_cancel₀ _ (lanesFor_pos weight).ne']

/-- A float of at most eight has one lane, whose share it is. -/
theorem exactShare_of_small {weight : ℚ} (fixed : Doubles.round weight = weight)
    (small : |weight| ≤ 8) : ExactShare weight := by
  -- Up to eight, one lane carries the whole weight.
  have single : lanesFor weight = 1 := by
    apply max_eq_left
    rw [Nat.ceil_le, Nat.cast_one]
    linarith
  rw [ExactShare, single, Nat.cast_one, div_one]
  exact fixed

/-- Numbers up to one need a single lane. -/
theorem max_ceil_of_le_one {quotient : ℚ} (small : quotient ≤ 1) : max 1 ⌈quotient⌉₊ = 1 :=
  max_eq_left (Nat.ceil_le.mpr (by exact_mod_cast small))

/-- Numbers above 32 need more lanes than there are. -/
theorem lt_max_ceil {quotient : ℚ} (large : 32 < quotient) : 32 < max 1 ⌈quotient⌉₊ :=
  lt_max_of_lt_right (Nat.lt_ceil.mpr (by exact_mod_cast large))

/-- Rounding an eighth does not change the number of lanes, unless it is too large anyway. -/
theorem max_ceil_round {size : ℚ} (positive : 0 ≤ size)
    (float : Doubles.round size = size ∨ 2 ^ 53 < size) :
    max 1 ⌈Doubles.round (size / 8)⌉₊ = max 1 ⌈size / 8⌉₊ ∨
      32 < max 1 ⌈Doubles.round (size / 8)⌉₊ ∧ 32 < max 1 ⌈size / 8⌉₊ := by
  have eighth : 0 ≤ size / 8 := by positivity
  by_cases small : size < 1
  · -- Neither the quotient nor its float is more than one.
    have bounded : |Doubles.round (size / 8)| ≤ |1| :=
      Doubles.abs_round_le Doubles.round_one (by rw [abs_of_nonneg eighth]; norm_num; linarith)
    rw [abs_one] at bounded
    left
    rw [max_ceil_of_le_one ((le_abs_self _).trans bounded), max_ceil_of_le_one (by linarith)]
  · have large : 1 ≤ |size| := (not_lt.mp small).trans (le_abs_self _)
    rcases float with exact | huge
    · -- An eighth of a float is a float.
      left
      rw [Doubles.round_div_eight large, exact]
    · -- Rounding keeps the first bit, which is far beyond the number of lanes.
      right
      have reached : (2 : ℚ) ^ (50 : ℤ) ≤ |size / 8| := by
        rw [abs_of_nonneg eighth]
        norm_num at huge ⊢
        linarith
      have rounded := Doubles.zpow_le_abs_round (by norm_num) reached
      rw [abs_of_nonneg (Doubles.round_nonneg eighth)] at rounded
      norm_num at huge rounded
      exact ⟨lt_max_ceil (by linarith), lt_max_ceil (by linarith)⟩

/-- An overflow means more lanes than there are. -/
theorem Overflows.lt_lanesFor {weight : Number} (overflows : Overflows weight) :
    32 < lanesFor weight.value := by
  cases weight with
  | int weight =>
    apply lt_max_ceil
    by_contra few
    -- The float of a quotient of at most 32 is at most 32, too.
    have eighth : 0 ≤ |(weight : ℚ)| / 8 := by positivity
    have bounded : |Doubles.round (|(weight : ℚ)| / 8)| ≤ |((32 : ℤ) : ℚ)| := by
      apply Doubles.abs_round_le (Doubles.round_intCast (by norm_num))
      rw [abs_of_nonneg eighth]
      norm_num
      exact not_lt.mp few
    norm_num at bounded
    exact absurd (overflows.trans bounded) (not_le.mpr Doubles.lt_limit)
  | float _ | fraction _ => exact overflows.elim

/-- The lanes of an integer that is too large cannot be counted. -/
theorem lanesNeeded_error {weight : Number} (overflows : Overflows weight) :
    ∃ error, lanesNeeded weight = .error error ∧ error.kind = .overflow := by
  -- Only an integer is converted on division; a float and a fraction stay in range.
  cases weight with
  | int weight =>
    have huge : Doubles.limit ≤ |Doubles.round (((|weight| : ℤ) : ℚ) / (8 : Nat))| := by
      push_cast
      exact overflows
    refine ⟨⟨.overflow, "integer division result too large for a float"⟩, ?_, rfl⟩
    show Except.map _ (Except.map _ (Double.ofValue _ _)) = _
    rw [Double.ofValue, dif_neg (not_lt.mpr huge)]
    rfl
  | float _ | fraction _ => exact overflows.elim

/-- Any other weight needs its number of lanes, or more than there are. -/
theorem lanesNeeded_ok {weight : Number} (counted : ¬ Overflows weight) :
    ∃ needed, lanesNeeded weight = .ok needed ∧
      (needed = lanesFor weight.value ∨ 32 < needed ∧ 32 < lanesFor weight.value) := by
  cases weight with
  | int weight =>
    have fits : |Doubles.round (((|weight| : ℤ) : ℚ) / (8 : Nat))| < Doubles.limit := by
      push_cast
      exact not_le.mp counted
    have divided : lanesNeeded (.int weight) =
        .ok (max 1 ⌈Doubles.round (((|weight| : ℤ) : ℚ) / (8 : Nat))⌉₊) := by
      show Except.map _ (Except.map _ (Double.ofValue _ _)) = _
      rw [Double.ofValue_eq _ fits]
      rfl
    refine ⟨_, divided, ?_⟩
    -- Integers of more than 53 bits may be rounded, but these are large.
    have float : Doubles.round |(weight : ℚ)| = |(weight : ℚ)| ∨ 2 ^ 53 < |(weight : ℚ)| := by
      by_cases bits : |weight| ≤ 2 ^ 53
      · exact .inl (by exact_mod_cast @Doubles.round_intCast |weight| (by rwa [abs_abs]))
      · exact .inr (by exact_mod_cast not_le.mp bits)
    simpa [lanesFor, Number.value] using max_ceil_round (abs_nonneg _) float
  | float weight =>
    refine ⟨_, rfl, ?_⟩
    have float := Doubles.round_abs weight.property.1
    simpa [lanesFor, Number.value, Double.divide, Double.abs] using
      max_ceil_round (abs_nonneg _) (.inl float)
  | fraction weight => exact ⟨_, rfl, .inl (by simp [lanesFor, Number.value])⟩

/-- The share of one lane is calculated: its float is that of the exact share. -/
theorem share_ok (weight : Number) :
    ∃ share, weight.divide (lanesFor weight.value) = .ok share ∧ |share.value| ≤ 8 ∧
      share.rounded = Doubles.round (weight.value / lanesFor weight.value) := by
  have eight : Doubles.round 8 = 8 := by exact_mod_cast @Doubles.round_intCast 8 (by norm_num)
  have small : |weight.value / lanesFor weight.value| ≤ |8| := by
    norm_num
    exact share_small weight.value
  -- A share of at most eight fits a float.
  have fits : |Doubles.round (weight.value / lanesFor weight.value)| < Doubles.limit := by
    have bounded := Doubles.abs_round_le eight small
    norm_num at bounded
    exact bounded.trans_lt (lt_trans (by norm_num) Doubles.lt_limit)
  obtain ⟨share, divided⟩ := Number.divide_of_lt fits
  have bounded := Number.abs_value_of_divide_le divided eight small
  norm_num at bounded
  exact ⟨share, divided, bounded, Number.rounded_of_divide divided⟩

/-- A share above one has an eighth of it for its factor. -/
theorem factor_large {share : Number} (large : 1 < |share.value|) (small : |share.value| ≤ 8) :
    ∃ scaled factor, share.divide 8 = .ok scaled ∧ Factor.validate scaled = .ok factor ∧
      factor.val * 8 = share.rounded := by
  have eighth : |share.value / (8 : Nat)| ≤ |1| := by
    rw [abs_div]
    norm_num
    linarith
  have bounded := Doubles.abs_round_le Doubles.round_one eighth
  have fits : |Doubles.round (share.value / (8 : Nat))| < Doubles.limit := by
    rw [abs_one] at bounded
    exact bounded.trans_lt (lt_trans (by norm_num) Doubles.lt_limit)
  obtain ⟨scaled, divided⟩ := Number.divide_of_lt fits
  have rounded := Number.rounded_of_divide divided
  have inside : -1 ≤ scaled.rounded ∧ scaled.rounded ≤ 1 := by
    rw [rounded]
    rw [abs_one] at bounded
    exact abs_le.mp bounded
  refine ⟨scaled, _, divided, Factor.validate_inside inside, ?_⟩
  -- The division by eight leaves the bits alone, which upscaling makes up for.
  show scaled.rounded * 8 = share.rounded
  rw [rounded, Nat.cast_ofNat, Doubles.round_div_eight large.le, Number.rounded]
  ring

/-- A share up to one is a factor itself. -/
theorem factor_small {share : Number} (small : ¬ 1 < |share.value|) :
    ∃ factor, Factor.validate share = .ok factor ∧ factor.val = share.rounded := by
  -- Rounding does not go beyond one, which is a float.
  have bounded : |share.rounded| ≤ |1| :=
    Doubles.abs_round_le Doubles.round_one (by rw [abs_one]; exact not_lt.mp small)
  rw [abs_one] at bounded
  exact ⟨_, Factor.validate_inside (abs_le.mp bounded), rfl⟩

end Circuit

end Pybrid
