import Mathlib

/-! Rounding to double precision: 53 significant bits, down to a least quantum. -/

namespace Doubles

/-- The nearest integer; of two that are equally near, the even one. -/
def nearest (x : ℚ) : ℤ :=
  if x - ⌊x⌋ < 1 / 2 ∨ (x - ⌊x⌋ = 1 / 2 ∧ ⌊x⌋ % 2 = 0) then ⌊x⌋ else ⌊x⌋ + 1

/-- The exponent of the last bit that is kept of a number. -/
def lastBit (x : ℚ) : ℤ :=
  -- Below the normal range the precision goes down with the numbers.
  max (Int.log 2 |x| - 52) (-1074)

/-- The value of the last bit that is kept of a number. -/
def quantum (x : ℚ) : ℚ := 2 ^ lastBit x

/-- The nearest multiple of the quantum, whatever its size. -/
def round (x : ℚ) : ℚ := nearest (x / quantum x) * quantum x

/-- What is in size from this bound on does not fit. -/
def limit : ℚ := 2 ^ 1024

/-- An integer is the nearest one to itself. -/
theorem nearest_intCast (n : ℤ) : nearest n = n := by
  -- Nothing is left behind its floor.
  simp [nearest]

/-- Numbers up to an integer are rounded up to it at most. -/
theorem nearest_le {x : ℚ} {n : ℤ} (bounded : x ≤ n) : nearest x ≤ n := by
  unfold nearest
  have below : ⌊x⌋ ≤ n := by exact_mod_cast (Int.floor_le x).trans bounded
  split
  case isTrue => exact below
  case isFalse up =>
    -- Rounding up needs room behind the floor, which there is none of at the integer itself.
    rcases below.lt_or_eq with strict | same
    · omega
    · exfalso
      apply up
      left
      rw [same]
      linarith

/-- And those from an integer on are rounded down to it at most. -/
theorem le_nearest {x : ℚ} {n : ℤ} (bounded : (n : ℚ) ≤ x) : n ≤ nearest x := by
  unfold nearest
  have floor : n ≤ ⌊x⌋ := Int.le_floor.mpr bounded
  split <;> omega

/-- A number that is no larger than an integer is rounded to one that is no larger. -/
theorem abs_nearest_le {x : ℚ} {n : ℤ} (bounded : |x| ≤ n) : |nearest x| ≤ n := by
  obtain ⟨lower, upper⟩ := abs_le.mp bounded
  exact abs_le.mpr ⟨le_nearest (by push_cast; exact lower), nearest_le upper⟩

/-- A number that is no smaller than an integer is rounded to one that is no smaller. -/
theorem le_abs_nearest {x : ℚ} {n : ℤ} (bounded : (n : ℚ) ≤ |x|) : n ≤ |nearest x| := by
  -- The bound holds on the positive or on the negative side.
  rcases le_abs.mp bounded with positive | negative
  · exact (le_nearest positive).trans (le_abs_self _)
  · have below : x ≤ ((-n : ℤ) : ℚ) := by push_cast; linarith
    have turned := nearest_le below
    exact (by omega : n ≤ -nearest x).trans (neg_le_abs _)

/-- Quanta are positive. -/
theorem quantum_pos (x : ℚ) : 0 < quantum x := zpow_pos (by norm_num) _

/-- Zero is itself. -/
@[simp] theorem round_zero : round 0 = 0 := by
  -- No multiple of the quantum is nearer to zero than zero.
  have zero : nearest 0 = 0 := nearest_intCast 0
  simp [round, zero]

/-- Larger numbers keep no smaller bits. -/
theorem lastBit_mono {x y : ℚ} (smaller : |x| ≤ |y|) (nonzero : x ≠ 0) : lastBit x ≤ lastBit y := by
  have := Int.log_mono_right (b := 2) (abs_pos.mpr nonzero) smaller
  unfold lastBit
  omega

/-- A number is less than twice the power of two at its first bit. -/
theorem abs_lt (x : ℚ) : |x| < 2 ^ (Int.log 2 |x| + 1) := by
  exact_mod_cast Int.lt_zpow_succ_log_self (b := 2) (by norm_num) |x|

/-- And no less than that power. -/
theorem le_abs {x : ℚ} (nonzero : x ≠ 0) : 2 ^ Int.log 2 |x| ≤ |x| := by
  exact_mod_cast Int.zpow_log_le_self (b := 2) (by norm_num) (abs_pos.mpr nonzero)

/-- A power of two is a whole number of lower powers. -/
theorem zpow_eq_mul {low high : ℤ} (ordered : low ≤ high) :
    (2 : ℚ) ^ high = ((2 ^ (high - low).toNat : ℤ) : ℚ) * 2 ^ low := by
  obtain ⟨difference, rfl⟩ := Int.le.dest ordered
  simp [zpow_add₀, mul_comm]

/-- Whole numbers of a quantum are left alone. -/
theorem round_of_eq_mul {x : ℚ} {n : ℤ} (whole : x = n * quantum x) : round x = x := by
  -- A whole number of quanta is its own nearest integer.
  have divided : x / quantum x = n := by
    rw [div_eq_iff (quantum_pos x).ne']
    exact whole
  rw [round, divided, nearest_intCast]
  exact whole.symm

/-- Numbers of at most 53 bits, none of them below the least quantum, are left alone. -/
theorem round_of_bits {m e : ℤ} (bits : |m| ≤ 2 ^ 53) (least : -1074 ≤ e) :
    round (m * 2 ^ e) = m * 2 ^ e := by
  rcases eq_or_ne m 0 with rfl | nonzero
  · simp
  have power : (0 : ℚ) < 2 ^ e := zpow_pos (by norm_num) e
  have size : |(m : ℚ) * 2 ^ e| = |(m : ℚ)| * 2 ^ e := by rw [abs_mul, abs_of_pos power]
  have nonzero : (m : ℚ) * 2 ^ e ≠ 0 := mul_ne_zero (by exact_mod_cast nonzero) power.ne'
  by_cases above : lastBit (m * 2 ^ e) ≤ e
  · -- The last bit of the number is at or above the one that is kept.
    apply @round_of_eq_mul _ (m * 2 ^ (e - lastBit (m * 2 ^ e)).toNat)
    conv_lhs => rw [zpow_eq_mul above]
    rw [quantum]
    push_cast
    ring
  · -- One bit more is only reached by the power of two, whose last bit is zero.
    have first : e + 53 ≤ Int.log 2 |(m : ℚ) * 2 ^ e| := by
      unfold lastBit at above
      omega
    have reached : (2 : ℚ) ^ (e + 53) ≤ |(m : ℚ)| * 2 ^ e := by
      rw [← size]
      exact (zpow_le_zpow_right₀ (by norm_num) first).trans (le_abs nonzero)
    have large : 2 ^ 53 ≤ |m| := by
      rw [zpow_add₀ (by norm_num), mul_comm] at reached
      exact_mod_cast le_of_mul_le_mul_right reached power
    have exact : |(m : ℚ)| = 2 ^ 53 := by exact_mod_cast le_antisymm bits large
    have last : lastBit (m * 2 ^ e) = e + 1 := by
      have whole : |(m : ℚ) * 2 ^ e| = ((2 : ℕ) : ℚ) ^ (e + 53) := by
        rw [size, exact, Nat.cast_ofNat, zpow_add₀ (by norm_num), mul_comm]
        norm_num
      rw [lastBit, whole, Int.log_zpow (by norm_num)]
      omega
    obtain ⟨half, rfl⟩ : ∃ half, m = half * 2 := by
      rcases abs_eq (by norm_num) |>.mp (le_antisymm bits large) with rfl | rfl
      · exact ⟨2 ^ 52, by norm_num⟩
      · exact ⟨-2 ^ 52, by norm_num⟩
    apply @round_of_eq_mul _ half
    rw [quantum, last, zpow_add₀ (by norm_num)]
    push_cast
    ring

/-- Integers of at most 53 bits are doubles. -/
theorem round_intCast {n : ℤ} (bits : |n| ≤ 2 ^ 53) : round n = n := by
  -- Their last bit has the value one.
  have rounded := round_of_bits bits (e := 0) (by norm_num)
  simpa using rounded

/-- One is a double. -/
theorem round_one : round 1 = 1 := by
  exact_mod_cast @round_intCast 1 (by norm_num)

/-- Small numbers are within the range. -/
theorem lt_limit : 32 < limit := by
  have power : (2 : ℚ) ^ 5 < 2 ^ 1024 := pow_lt_pow_right₀ (by norm_num) (by norm_num)
  exact (by norm_num : (32 : ℚ) = 2 ^ 5) ▸ power

/-- What is kept of a number has at most 53 bits. -/
theorem abs_nearest_quantum_le (x : ℚ) : |nearest (x / quantum x)| ≤ 2 ^ 53 := by
  apply abs_nearest_le
  rw [abs_div, abs_of_pos (quantum_pos x), div_le_iff₀ (quantum_pos x)]
  -- The first bit of the number is at most 53 places in front of the end of the last.
  have last : Int.log 2 |x| + 1 ≤ 53 + lastBit x := by
    unfold lastBit
    omega
  have bound := (abs_lt x).le.trans (zpow_le_zpow_right₀ (by norm_num : (1 : ℚ) ≤ 2) last)
  rw [zpow_add₀ (by norm_num)] at bound
  exact_mod_cast bound

/-- Rounding keeps the sign. -/
theorem round_nonneg {x : ℚ} (nonneg : 0 ≤ x) : 0 ≤ round x := by
  have kept : 0 ≤ nearest (x / quantum x) :=
    le_nearest (by exact_mod_cast div_nonneg nonneg (quantum_pos x).le)
  exact mul_nonneg (by exact_mod_cast kept) (quantum_pos x).le

/-- What has been rounded is left alone. -/
@[simp] theorem round_round (x : ℚ) : round (round x) = round x :=
  round_of_bits (abs_nearest_quantum_le x) (le_max_right _ _)

/-- A tenth is no double, and this one is the nearest to it. -/
example : round (1 / 10) = 3602879701896397 / 2 ^ 55 := by decide +kernel

/-- A double is a whole number of any quantum up to its own. -/
theorem abs_eq_mul {y : ℚ} (fixed : round y = y) {e : ℤ} (coarse : e ≤ lastBit y) :
    ∃ n : ℤ, |y| = n * 2 ^ e := by
  refine ⟨|nearest (y / quantum y)| * 2 ^ (lastBit y - e).toNat, ?_⟩
  -- The number is its own rounding, a multiple of its last bit.
  calc |y| = |(nearest (y / quantum y) : ℚ)| * 2 ^ lastBit y := by
        conv_lhs => rw [← fixed, round, abs_mul, abs_of_pos (quantum_pos y)]
        rfl
    _ = _ := by
        conv_lhs => rw [zpow_eq_mul coarse]
        push_cast
        ring

/-- Rounding does not lead beyond a double. -/
theorem abs_round_le {x y : ℚ} (fixed : round y = y) (smaller : |x| ≤ |y|) : |round x| ≤ |y| := by
  rcases eq_or_ne x 0 with rfl | nonzero
  · simp
  -- In quanta of the smaller number the double is an integer, which bounds what is nearest.
  obtain ⟨n, whole⟩ := abs_eq_mul fixed (lastBit_mono smaller nonzero)
  have quanta : |x / quantum x| ≤ n := by
    rw [abs_div, abs_of_pos (quantum_pos x), div_le_iff₀ (quantum_pos x), quantum, ← whole]
    exact smaller
  rw [round, abs_mul, abs_of_pos (quantum_pos x), whole, ← quantum]
  exact mul_le_mul_of_nonneg_right (by exact_mod_cast abs_nearest_le quanta) (quantum_pos x).le

/-- No count divides a number into something larger. -/
theorem abs_div_natCast_le (x : ℚ) (count : ℕ) : |x / count| ≤ |x| := by
  rw [abs_div, Nat.abs_cast]
  -- Division by zero is zero, and every other count is at least one.
  rcases Nat.eq_zero_or_pos count with rfl | positive
  · simp
  · exact div_le_self (abs_nonneg x) (by exact_mod_cast positive)

/-- The absolute value of a double is one. -/
theorem round_abs {x : ℚ} (fixed : round x = x) : round |x| = |x| := by
  obtain ⟨n, whole⟩ := abs_eq_mul fixed le_rfl
  -- It has the same quantum.
  apply @round_of_eq_mul _ n
  rw [quantum, lastBit, abs_abs]
  exact whole

/-- A number is no smaller than a power of two if its first bit is not. -/
theorem zpow_le_abs_round {x : ℚ} {e : ℤ} (least : -1074 ≤ e) (reached : (2 : ℚ) ^ e ≤ |x|) :
    (2 : ℚ) ^ e ≤ |round x| := by
  have nonzero : x ≠ 0 := by
    rintro rfl
    rw [abs_zero] at reached
    exact absurd reached (not_le.mpr (zpow_pos (by norm_num) e))
  have first : e ≤ Int.log 2 |x| := by
    exact_mod_cast (Int.zpow_le_iff_le_log (b := 2) (by norm_num) (abs_pos.mpr nonzero)).mp
      (by exact_mod_cast reached)
  -- The power of two at the first bit is a whole number of quanta.
  have kept : lastBit x ≤ Int.log 2 |x| := by
    unfold lastBit
    omega
  have quanta : (((2 ^ (Int.log 2 |x| - lastBit x).toNat : ℤ)) : ℚ) ≤ |x / quantum x| := by
    rw [abs_div, abs_of_pos (quantum_pos x), le_div_iff₀ (quantum_pos x), quantum,
      ← zpow_eq_mul kept]
    exact le_abs nonzero
  rw [round, abs_mul, abs_of_pos (quantum_pos x)]
  calc (2 : ℚ) ^ e ≤ 2 ^ Int.log 2 |x| := zpow_le_zpow_right₀ (by norm_num) first
    _ = ((2 ^ (Int.log 2 |x| - lastBit x).toNat : ℤ) : ℚ) * quantum x := by
      rw [quantum, ← zpow_eq_mul kept]
    _ ≤ |(nearest (x / quantum x) : ℚ)| * quantum x :=
      mul_le_mul_of_nonneg_right (by exact_mod_cast le_abs_nearest quanta) (quantum_pos x).le

/-- An eighth of a number has its first bit three places lower. -/
theorem log_div_eight {r : ℚ} (positive : 0 < r) : Int.log 2 (r / 8) = Int.log 2 r - 3 := by
  have eighth : (2 : ℚ) ^ (Int.log 2 r - 3) = 2 ^ Int.log 2 r / 8 := by
    rw [zpow_sub₀ (by norm_num)]
    norm_num
  have next : (2 : ℚ) ^ (Int.log 2 r - 3 + 1) = 2 ^ (Int.log 2 r + 1) / 8 := by
    rw [sub_add_eq_add_sub, zpow_sub₀ (by norm_num)]
    norm_num
  have lower : (2 : ℚ) ^ Int.log 2 r ≤ r := by
    exact_mod_cast Int.zpow_log_le_self (b := 2) (by norm_num) positive
  have upper : r < (2 : ℚ) ^ (Int.log 2 r + 1) := by
    exact_mod_cast Int.lt_zpow_succ_log_self (b := 2) (by norm_num) r
  -- The two powers of two around the number are divided with it.
  have reached : Int.log 2 r - 3 ≤ Int.log 2 (r / 8) := by
    apply (Int.zpow_le_iff_le_log (b := 2) (by norm_num) (by positivity)).mp
    push_cast
    linarith
  have below : Int.log 2 (r / 8) < Int.log 2 r - 3 + 1 := by
    apply (Int.lt_zpow_iff_log_lt (b := 2) (by norm_num) (by positivity)).mp
    push_cast
    linarith
  omega

/-- An eighth of a number from one on has an eighth of its quantum. -/
theorem quantum_div_eight {x : ℚ} (large : 1 ≤ |x|) : quantum (x / 8) = quantum x / 8 := by
  have first : Int.log 2 |x / 8| = Int.log 2 |x| - 3 := by
    rw [abs_div, abs_of_pos (by norm_num : (0 : ℚ) < 8)]
    exact log_div_eight (one_pos.trans_le large)
  have normal : 0 ≤ Int.log 2 |x| :=
    (Int.zpow_le_iff_le_log (b := 2) (by norm_num) (one_pos.trans_le large)).mp (by simpa using large)
  -- Neither of the two is below the normal range.
  have last : lastBit (x / 8) = lastBit x - 3 := by
    unfold lastBit
    omega
  rw [quantum, quantum, last, zpow_sub₀ (by norm_num)]
  norm_num

/-- Dividing by eight leaves the bits of a number alone. -/
theorem round_div_eight {x : ℚ} (large : 1 ≤ |x|) : round (x / 8) = round x / 8 := by
  -- The quantum of an eighth is an eighth of the quantum.
  have quanta : x / 8 / quantum (x / 8) = x / quantum x := by
    rw [quantum_div_eight large]
    field_simp
  rw [round, quanta, quantum_div_eight large, round]
  ring

end Doubles
