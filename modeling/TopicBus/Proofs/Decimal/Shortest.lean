import TopicBus.Decimal.Shortest
import TopicBus.Proofs.Decimal.Scaling

/-!
# The size of shortest decimals

The search for the shortest decimal of a double stays within half a place above the double and
never needs more than eighteen digits. So every such decimal can be read by scaling: all but the
two greatest doubles are further than three roundings from the end of the range, and of those
two the decimals are known.
-/

namespace TopicBus.Decimal

namespace Numeral

/-- The number that a numeral stands for. -/
def value (n : Numeral) : ℚ :=
  n.significand * (10 : ℚ) ^ n.exponent

theorem value_trimmed (significand : ℕ) (exponent : ℤ) :
    (trimmed significand exponent).value = significand * (10 : ℚ) ^ exponent := by
  fun_induction trimmed significand exponent with
  | case1 significand exponent done => rfl
  | case2 significand exponent more inductionHypothesis =>
      have zeros : 10 * (significand / 10) = significand := by omega
      have cast : (10 : ℚ) * (significand / 10 : ℕ) = significand := by exact_mod_cast zeros
      rw [inductionHypothesis, zpow_add_one₀ (by norm_num), ← cast]
      ring

theorem trimmed_le (significand : ℕ) (exponent : ℤ) :
    (trimmed significand exponent).significand ≤ significand ∧
      (0 < significand → 0 < (trimmed significand exponent).significand) := by
  fun_induction trimmed significand exponent with
  | case1 significand exponent done => exact ⟨le_refl _, id⟩
  | case2 significand exponent more inductionHypothesis =>
      obtain ⟨less, positive⟩ := inductionHypothesis
      exact ⟨by omega, fun _ => positive (by omega)⟩

end Numeral

namespace Shortest

variable {num den : ℕ}

/-! ## The greatest power of ten -/

theorem digitCount_pos {n : ℕ} (positive : 0 < n) : 0 < digitCount n := by
  rw [digitCount, if_neg positive.ne']
  omega

theorem ten_pow_digitCount_le {n : ℕ} (positive : 0 < n) :
    10 ^ (digitCount n - 1) ≤ n ∧ n < 10 ^ digitCount n := by
  induction n using Nat.strongRecOn with
  | ind n inductionHypothesis =>
      rw [digitCount, if_neg positive.ne']
      rcases Nat.eq_zero_or_pos (n / 10) with zero | more
      · rw [zero, digitCount, if_pos rfl]
        omega
      · obtain ⟨low, high⟩ := inductionHypothesis (n / 10) (by omega) more
        obtain ⟨count, shape⟩ : ∃ count, digitCount (n / 10) = count + 1 :=
          ⟨digitCount (n / 10) - 1, by have := digitCount_pos more; omega⟩
        rw [shape] at low high ⊢
        simp only [Nat.add_sub_cancel] at low ⊢
        rw [pow_succ] at high ⊢
        rw [pow_succ (n := count + 1), pow_succ (n := count)]
        omega

private theorem zpow_neg_le_div_iff (positive : 0 < den) (k : ℕ) :
    (10 : ℚ) ^ (-(k : ℤ)) ≤ (num : ℚ) / den ↔ den ≤ num * 10 ^ k := by
  have divisor : (0 : ℚ) < den := by exact_mod_cast positive
  rw [zpow_neg, zpow_natCast, inv_eq_one_div, div_le_div_iff₀ (by positivity) divisor, one_mul]
  exact_mod_cast Iff.rfl

private theorem div_le_zpow_neg_iff (positive : 0 < den) (k : ℕ) :
    (num : ℚ) / den ≤ (10 : ℚ) ^ (-(k : ℤ)) ↔ num * 10 ^ k ≤ den := by
  have divisor : (0 : ℚ) < den := by exact_mod_cast positive
  rw [zpow_neg, zpow_natCast, inv_eq_one_div, div_le_div_iff₀ divisor (by positivity), one_mul]
  exact_mod_cast Iff.rfl

/-- A positive quotient is between two powers of ten that follow each other. -/
theorem zpow_floorLog10_le (above : 0 < num) (positive : 0 < den) :
    (10 : ℚ) ^ floorLog10 num den ≤ (num : ℚ) / den ∧
      (num : ℚ) / den < (10 : ℚ) ^ (floorLog10 num den + 1) := by
  have divisor : (0 : ℚ) < den := by exact_mod_cast positive
  by_cases large : den ≤ num
  · have quotient : 0 < num / den := Nat.div_pos large positive
    obtain ⟨count, shape⟩ := Nat.exists_eq_add_one_of_ne_zero (digitCount_pos quotient).ne'
    obtain ⟨low, high⟩ := ten_pow_digitCount_le quotient
    rw [shape, Nat.add_sub_cancel, Nat.le_div_iff_mul_le positive] at low
    rw [shape, Nat.div_lt_iff_lt_mul positive] at high
    have logarithm : floorLog10 num den = count := by
      rw [floorLog10, if_pos large, shape]
      omega
    rw [logarithm, le_div_iff₀ divisor, div_lt_iff₀ divisor]
    exact ⟨by exact_mod_cast low, by exact_mod_cast high⟩
  · have quotient : 0 < den / num := Nat.div_pos (by omega) above
    obtain ⟨count, shape⟩ := Nat.exists_eq_add_one_of_ne_zero (digitCount_pos quotient).ne'
    obtain ⟨low, high⟩ := ten_pow_digitCount_le quotient
    rw [shape, Nat.add_sub_cancel, Nat.le_div_iff_mul_le above, mul_comm] at low
    rw [shape, Nat.div_lt_iff_lt_mul above, mul_comm] at high
    -- The digits of the inverse quotient tell the logarithm up to one; a power of ten is one off.
    by_cases exactly : den ≤ num * 10 ^ count
    · have logarithm : floorLog10 num den = -(count : ℤ) := by
        rw [floorLog10, if_neg large, shape]
        dsimp only
        rw [Nat.add_sub_cancel, Nat.pow_eq, if_pos exactly]
        omega
      rw [logarithm]
      constructor
      · exact (zpow_neg_le_div_iff positive count).mpr exactly
      · apply lt_of_le_of_lt ((div_le_zpow_neg_iff positive count).mpr low)
        exact zpow_lt_zpow_right₀ (by norm_num) (by omega)
    · have logarithm : floorLog10 num den = -((count + 1 : ℕ) : ℤ) := by
        rw [floorLog10, if_neg large, shape]
        dsimp only
        rw [Nat.add_sub_cancel, Nat.pow_eq, if_neg exactly]
      have next : -((count + 1 : ℕ) : ℤ) + 1 = -(count : ℤ) := by omega
      rw [logarithm, next]
      constructor
      · exact (zpow_neg_le_div_iff positive (count + 1)).mpr high.le
      · exact not_le.mp fun least => exactly ((zpow_neg_le_div_iff positive count).mp least)

/-! ## The search -/

variable {tie : Tie} {range : Interval} {candidate : ℕ} {exponent : ℤ}

private theorem units_eq (range : Interval) (exponent : ℤ) (num : ℕ) :
    ((num * Nat.pow 10 (-exponent).toNat : ℕ) : ℚ) /
        ((range.den * Nat.pow 10 exponent.toNat : ℕ) : ℚ) =
      (num : ℚ) / range.den / (10 : ℚ) ^ exponent :=
  div_div_zpow 10 num range.den exponent

theorem le_high_of_holds (positive : 0 < range.den)
    (held : range.holds candidate (range.den * Nat.pow 10 exponent.toNat)
      (Nat.pow 10 (-exponent).toNat) = true) :
    candidate * (10 : ℚ) ^ exponent ≤ (range.high : ℚ) / range.den := by
  have grid : 0 < range.den * Nat.pow 10 exponent.toNat :=
    Nat.mul_pos positive (Nat.pow_pos (by norm_num))
  have point : candidate * (range.den * Nat.pow 10 exponent.toNat) ≤
      range.high * Nat.pow 10 (-exponent).toNat := by
    unfold Interval.holds at held
    dsimp only at held
    split at held
    · simp only [Bool.and_eq_true, decide_eq_true_eq] at held
      exact held.2
    · simp only [Bool.and_eq_true, decide_eq_true_eq] at held
      exact held.2.le
  have units : (candidate : ℚ) ≤ (range.high : ℚ) / range.den / (10 : ℚ) ^ exponent := by
    rw [← units_eq, le_div_iff₀ (by exact_mod_cast grid)]
    exact_mod_cast point
  rwa [le_div_iff₀ (by positivity)] at units

/-- The number of whole units below the value on a grid. -/
def floorOn (range : Interval) (exponent : ℤ) : ℕ :=
  range.value * Nat.pow 10 (-exponent).toNat / (range.den * Nat.pow 10 exponent.toNat)

theorem floorOn_le (exponent : ℤ) (positive : 0 < range.den) :
    (floorOn range exponent : ℚ) ≤ (range.value : ℚ) / range.den / (10 : ℚ) ^ exponent ∧
      (range.value : ℚ) / range.den / (10 : ℚ) ^ exponent < floorOn range exponent + 1 := by
  have grid : 0 < range.den * Nat.pow 10 exponent.toNat :=
    Nat.mul_pos positive (Nat.pow_pos (by norm_num))
  have divisor : (0 : ℚ) < ((range.den * Nat.pow 10 exponent.toNat : ℕ) : ℚ) := by
    exact_mod_cast grid
  have next : range.value * Nat.pow 10 (-exponent).toNat <
      (floorOn range exponent + 1) * (range.den * Nat.pow 10 exponent.toNat) :=
    (Nat.div_lt_iff_lt_mul grid).mp (Nat.lt_succ_self _)
  rw [← units_eq, le_div_iff₀ divisor, div_lt_iff₀ divisor]
  exact ⟨by exact_mod_cast Nat.div_mul_le_self _ _, by exact_mod_cast next⟩

/-- A hit is one of the two neighbours of the value on the grid, and it is in the interval. -/
theorem onGrid?_eq_some (positive : 0 < range.den)
    (hit : onGrid? tie range exponent = some candidate) :
    (candidate = floorOn range exponent ∨ candidate = floorOn range exponent + 1) ∧
      candidate * (10 : ℚ) ^ exponent ≤ (range.high : ℚ) / range.den := by
  unfold onGrid? at hit
  dsimp only at hit
  split at hit
  · rename_i both
    rw [Bool.and_eq_true] at both
    split at hit
    · cases hit
      exact ⟨.inr rfl, le_high_of_holds positive both.2⟩
    · cases hit
      exact ⟨.inl rfl, le_high_of_holds positive both.1⟩
  · split at hit
    · cases hit
      exact ⟨.inl rfl, le_high_of_holds positive ‹_›⟩
    · split at hit
      · cases hit
        exact ⟨.inr rfl, le_high_of_holds positive ‹_›⟩
      · cases hit

/-- What the search finds for an interval. -/
structure IsNear (range : Interval) (n : Numeral) : Prop where
  positive : 0 < n.significand
  fits : n.significand ≤ 10 ^ 18
  below : n.value ≤ (range.high : ℚ) / range.den

private theorem IsNear.trimmed (positive : 0 < candidate) (fits : candidate ≤ 10 ^ 18)
    (below : candidate * (10 : ℚ) ^ exponent ≤ (range.high : ℚ) / range.den) :
    IsNear range (Numeral.trimmed candidate exponent) := by
  obtain ⟨less, keeps⟩ := Numeral.trimmed_le candidate exponent
  rw [← Numeral.value_trimmed] at below
  exact ⟨keeps positive, le_trans less fits, below⟩

private theorem floorOn_bounds (positive : 0 < range.den)
    (above : (10 : ℚ) ^ exponent ≤ (range.value : ℚ) / range.den)
    (small : (range.value : ℚ) / range.den < (10 : ℚ) ^ (exponent + 18)) :
    0 < floorOn range exponent ∧ floorOn range exponent < 10 ^ 18 := by
  obtain ⟨low, high⟩ := floorOn_le exponent positive
  have unit : (0 : ℚ) < (10 : ℚ) ^ exponent := by positivity
  rw [zpow_add₀ (by norm_num), mul_comm, ← div_lt_iff₀ unit] at small
  rw [← one_le_div unit] at above
  have least : (0 : ℚ) < floorOn range exponent := by linarith
  have greatest : (floorOn range exponent : ℚ) < (10 : ℚ) ^ (18 : ℤ) := lt_of_le_of_lt low small
  exact ⟨by exact_mod_cast least, by exact_mod_cast greatest⟩

theorem isNear_search (positive : 0 < range.den) (ordered : range.value ≤ range.high) (tries : ℕ)
    (above : (10 : ℚ) ^ exponent ≤ (range.value : ℚ) / range.den)
    (small : (range.value : ℚ) / range.den < (10 : ℚ) ^ (exponent - tries + 18)) :
    IsNear range (search tie range tries exponent) := by
  have ten : (1 : ℚ) ≤ 10 := by norm_num
  -- Every grid that is tried is finer than the last one; on the finest there are at most
  -- eighteen digits.
  induction tries generalizing exponent with
  | zero =>
      rw [Nat.cast_zero, sub_zero] at small
      obtain ⟨least, greatest⟩ := floorOn_bounds positive above small
      obtain ⟨low, _⟩ := floorOn_le exponent positive
      refine ⟨least, greatest.le, ?_⟩
      rw [le_div_iff₀ (by positivity)] at low
      calc (search tie range 0 exponent).value ≤ (range.value : ℚ) / range.den := low
        _ ≤ (range.high : ℚ) / range.den := by gcongr
  | succ tries inductionHypothesis =>
      have within : (range.value : ℚ) / range.den < (10 : ℚ) ^ (exponent + 18) :=
        lt_of_lt_of_le small (zpow_le_zpow_right₀ ten (by omega))
      obtain ⟨least, greatest⟩ := floorOn_bounds positive above within
      rw [search]
      split
      · rename_i candidate hit
        obtain ⟨neighbour | neighbour, below⟩ := onGrid?_eq_some positive hit
        · exact IsNear.trimmed (by omega) (by omega) below
        · exact IsNear.trimmed (by omega) (by omega) below
      · apply inductionHypothesis
        · exact le_trans (zpow_le_zpow_right₀ ten (by omega)) above
        · refine lt_of_lt_of_le small (zpow_le_zpow_right₀ ten ?_)
          push_cast
          omega

/-! ## The shortest decimal of a double -/

variable {x : Magnitude}

private theorem scale_eq (x : Magnitude) :
    ((Nat.pow 2 (x.exponent - 2).toNat : ℕ) : ℚ) / ((Nat.pow 2 (2 - x.exponent).toNat : ℕ) : ℚ) =
      (2 : ℚ) ^ x.exponent / 4 := by
  have scale := pow_div_pow_eq_zpow 2 (x.exponent - 2)
  rw [neg_sub, Nat.cast_ofNat, zpow_sub₀ (by norm_num)] at scale
  rw [scale]
  norm_num

/-- The interval of a double ends half a place above it. -/
theorem interval_high (x : Magnitude) :
    ((interval x).high : ℚ) / (interval x).den =
      (x.significand + 1 / 2) * (2 : ℚ) ^ x.exponent := by
  have scale := scale_eq x
  simp only [interval, Nat.cast_mul, mul_div_assoc, scale]
  push_cast
  ring

theorem isNear_numeral (tie : Tie) (positive : 0 < x.significand) :
    IsNear (interval x) (numeral tie x) := by
  have divisor : 0 < (interval x).den := Nat.pow_pos (by norm_num)
  have scale : 0 < Nat.pow 2 (x.exponent - 2).toNat := Nat.pow_pos (by norm_num)
  have value : 0 < (interval x).value := Nat.mul_pos (by omega) scale
  have ordered : (interval x).value ≤ (interval x).high := Nat.mul_le_mul_right _ (by omega)
  obtain ⟨low, high⟩ := zpow_floorLog10_le value divisor
  apply isNear_search divisor ordered 17 low
  refine lt_of_lt_of_le high (zpow_le_zpow_right₀ (by norm_num) ?_)
  push_cast
  omega

section Doubles

variable (double : x.IsDouble) (positive : 0 < x.significand)

include double positive

private theorem value_numeral_lt : (numeral tie x).value < 10 ^ 309 := by
  have greatest : 2 ^ 53 * 2 ^ 971 < 10 ^ 309 := by decide +kernel
  have significand : (x.significand : ℚ) + 1 ≤ 2 ^ 53 := by exact_mod_cast double.significand
  calc (numeral tie x).value ≤ ((interval x).high : ℚ) / (interval x).den :=
        (isNear_numeral tie positive).below
    _ = (x.significand + 1 / 2) * (2 : ℚ) ^ x.exponent := interval_high x
    _ ≤ 2 ^ 53 * (2 : ℚ) ^ (971 : ℤ) := by
        have exponent : (2 : ℚ) ^ x.exponent ≤ (2 : ℚ) ^ (971 : ℤ) :=
          zpow_le_zpow_right₀ (by norm_num) double.exponent
        gcongr
        linarith
    _ < 10 ^ 309 := by exact_mod_cast greatest

/-- No power of ten below the decimal of a double is too great for a double. -/
theorem le_maxPower (tie : Tie) {power : ℤ} (below : (10 : ℚ) ^ power ≤ (numeral tie x).value) :
    power ≤ Scaled.maxPower := by
  have less : (10 : ℚ) ^ power < (10 : ℚ) ^ (309 : ℤ) :=
    lt_of_le_of_lt below (value_numeral_lt double positive)
  have order := (zpow_lt_zpow_iff_right₀ (by norm_num : (1 : ℚ) < 10)).mp less
  exact Int.lt_add_one_iff.mp order

omit positive in
/-- Of all doubles but the two greatest, half a place above is still far enough from the end. -/
private theorem high_lt_overflow
    (small : ¬ (x.exponent = 971 ∧ 2 ^ 53 - 2 ≤ x.significand)) :
    ((interval x).high : ℚ) / (interval x).den * (1 + 1 / 2 ^ 53) ^ 2 < Magnitude.overflow := by
  have half : ((interval x).high : ℚ) / (interval x).den ≤ (2 ^ 54 - 5) * 2 ^ 970 := by
    rw [interval_high]
    by_cases last : x.exponent = 971
    · have significand : x.significand + 3 ≤ 2 ^ 53 := by omega
      have cast : (x.significand : ℚ) + 3 ≤ 2 ^ 53 := by exact_mod_cast significand
      have places : ((x.significand : ℚ) + 1 / 2) * 2 ≤ 2 ^ 54 - 5 := by linarith
      rw [last, Magnitude.greatest_unit, ← mul_assoc]
      exact mul_le_mul_of_nonneg_right places (by positivity)
    · have significand : (x.significand : ℚ) + 1 ≤ 2 ^ 53 := by exact_mod_cast double.significand
      have places : (x.significand : ℚ) + 1 / 2 ≤ 2 ^ 54 - 5 := by linarith
      have limit := double.exponent
      have unit : (2 : ℚ) ^ x.exponent ≤ (2 : ℚ) ^ (970 : ℤ) :=
        zpow_le_zpow_right₀ (by norm_num) (by omega)
      exact mul_le_mul places unit (by positivity) (by norm_num)
  have room : (2 ^ 54 - 5 : ℚ) * (1 + 1 / 2 ^ 53) ^ 2 < 2 ^ 54 - 1 := by norm_num
  calc ((interval x).high : ℚ) / (interval x).den * (1 + 1 / 2 ^ 53) ^ 2
      ≤ (2 ^ 54 - 5) * 2 ^ 970 * (1 + 1 / 2 ^ 53) ^ 2 := by gcongr
    _ = (2 ^ 54 - 5) * (1 + 1 / 2 ^ 53) ^ 2 * 2 ^ 970 := mul_right_comm _ _ _
    _ < (2 ^ 54 - 1) * 2 ^ 970 := mul_lt_mul_of_pos_right room (by positivity)
    _ = Magnitude.overflow := rfl

/-- The shortest decimal of every double can be read by scaling. -/
theorem isSome_read?_numeral (tie : Tie) :
    (Scaled.read? (numeral tie x).significand (numeral tie x).exponent).isSome := by
  obtain ⟨above, fits, below⟩ := isNear_numeral tie positive
  by_cases greatest : x.exponent = 971 ∧ 2 ^ 53 - 2 ≤ x.significand
  · -- For the two greatest doubles the bound is too weak, but their decimals are short.
    have bound := double.significand
    obtain ⟨significand, exponent⟩ := x
    obtain ⟨rfl, least⟩ : exponent = 971 ∧ 2 ^ 53 - 2 ≤ significand := greatest
    obtain rfl | rfl : significand = 2 ^ 53 - 2 ∨ significand = 2 ^ 53 - 1 := by
      have limit : significand < 2 ^ 53 := double.significand
      omega
    · cases tie with
      | toEven => decide +kernel
      | away => decide +kernel
    · cases tie with
      | toEven => decide +kernel
      | away => decide +kernel
  · have small : (numeral tie x).significand < 2 ^ 64 := lt_of_le_of_lt fits (by norm_num)
    apply Scaled.isSome_read? above small
    · apply le_maxPower double positive tie
      have least : (1 : ℚ) ≤ (numeral tie x).significand := by exact_mod_cast above
      exact le_mul_of_one_le_left (by positivity) least
    · refine lt_of_le_of_lt ?_ (high_lt_overflow double greatest)
      gcongr
      exact below

end Doubles

end Shortest

end TopicBus.Decimal
