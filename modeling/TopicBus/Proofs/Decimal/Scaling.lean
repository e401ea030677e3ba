import TopicBus.Decimal.Scaled
import TopicBus.Proofs.Decimal.Rounding

/-!
# Numerals that can be read by scaling

Divisions by powers of ten never leave the range of doubles, however many of them it takes. A
multiplication leaves it only for numbers that are within three roundings of the greatest double
or beyond it.
-/

namespace TopicBus.Decimal

namespace Magnitude

variable {x y : Magnitude}

private theorem value_mul (x y : Magnitude) :
    ((x.numerator * y.numerator : ℕ) : ℚ) / ((x.denominator * y.denominator : ℕ) : ℚ) =
      x.value * y.value := by
  rw [← numerator_div_denominator x, ← numerator_div_denominator y, div_mul_div_comm, Nat.cast_mul,
    Nat.cast_mul]

private theorem value_div (x y : Magnitude) :
    ((x.numerator * y.denominator : ℕ) : ℚ) / ((x.denominator * y.numerator : ℕ) : ℚ) =
      x.value / y.value := by
  rw [← numerator_div_denominator x, ← numerator_div_denominator y, div_div_div_eq, Nat.cast_mul,
    Nat.cast_mul]

private theorem numerator_pos (above : 1 ≤ x.value) : 0 < x.numerator := by
  rcases Nat.eq_zero_or_pos x.numerator with zero | positive
  · rw [← numerator_div_denominator, zero, Nat.cast_zero, zero_div] at above
    exact absurd above (by norm_num)
  · exact positive

theorem isSome_mul? (small : x.value * y.value < overflow) : (x.mul? y).isSome := by
  apply isSome_ofRatio? (Nat.mul_pos x.denominator_pos y.denominator_pos)
  rw [value_mul]
  exact small

theorem isSome_div? (above : 1 ≤ y.value) (small : x.value ≤ 2 ^ 64) : (x.div? y).isSome := by
  apply isSome_ofRatio? (Nat.mul_pos x.denominator_pos (numerator_pos above))
  rw [value_div]
  calc x.value / y.value ≤ x.value := div_le_self x.value_nonneg above
    _ ≤ 2 ^ 64 := small
    _ < overflow := two_pow_lt_overflow (by norm_num)

/-- A division by two or more leaves room for the rounding. -/
theorem div?_le {z : Magnitude} (above : 2 ≤ y.value) (small : x.value ≤ 2 ^ 64)
    (divides : x.div? y = some z) : z.value ≤ 2 ^ 64 := by
  have divisor : 1 ≤ y.value := le_trans (by norm_num) above
  apply value_le_two_pow (Nat.mul_pos x.denominator_pos (numerator_pos divisor)) _ divides
  rw [value_div, div_lt_iff₀ (by linarith)]
  linarith

end Magnitude

namespace Scaled

open Magnitude

private theorem ten_pow_maxPower_lt : (10 : ℚ) ^ maxPower < overflow := by
  have greatest : 10 ^ maxPower + 2 ^ 970 < 2 ^ 54 * 2 ^ 970 := by decide +kernel
  have cast : (10 : ℚ) ^ maxPower + 2 ^ 970 < 2 ^ 54 * 2 ^ 970 := by exact_mod_cast greatest
  rw [overflow, sub_mul, one_mul, lt_sub_iff_add_lt]
  exact cast

theorem ofRatio?_ten_pow {n : ℕ} (small : n ≤ maxPower) :
    ofRatio? (Nat.pow 10 n) 1 = some (power n) := by
  have present : (ofRatio? (Nat.pow 10 n) 1).isSome := by
    apply isSome_ofRatio? (by norm_num)
    calc ((Nat.pow 10 n : ℕ) : ℚ) / (1 : ℕ) = (10 : ℚ) ^ n := by simp
      _ ≤ 10 ^ maxPower := pow_le_pow_right₀ (by norm_num) small
      _ < overflow := ten_pow_maxPower_lt
  obtain ⟨x, rounds⟩ := Option.isSome_iff_exists.mp present
  rw [power, rounds, Option.getD_some]

theorem one_le_power {n : ℕ} (small : n ≤ maxPower) : 1 ≤ (power n).value := by
  apply two_pow_le_value (k := 0) (by norm_num) _ (ofRatio?_ten_pow small)
  simpa using one_le_pow₀ (by norm_num : (1 : ℚ) ≤ 10)

theorem two_le_power {n : ℕ} (small : n ≤ maxPower) (positive : 0 < n) : 2 ≤ (power n).value := by
  have above : (2 : ℚ) ^ 1 ≤ ((Nat.pow 10 n : ℕ) : ℚ) / (1 : ℕ) := by
    calc (2 : ℚ) ^ 1 ≤ 10 ^ 1 := by norm_num
      _ ≤ 10 ^ n := pow_le_pow_right₀ (by norm_num) positive
      _ = ((Nat.pow 10 n : ℕ) : ℚ) / (1 : ℕ) := by simp
  have least := two_pow_le_value (by norm_num) above (ofRatio?_ten_pow small)
  rwa [pow_one] at least

theorem power_le {n : ℕ} (small : n ≤ maxPower) :
    (power n).value ≤ 10 ^ n * (1 + 1 / 2 ^ 53) := by
  have greatest := value_le (by norm_num) (by simpa using one_le_pow₀ (by norm_num : (1 : ℚ) ≤ 10))
    (ofRatio?_ten_pow small)
  simpa using greatest

/-- However often a number is divided, it stays in the range of doubles. -/
theorem shrink_le {divisor : Magnitude} (large : 2 ≤ divisor.value) (times : ℕ) {x : Magnitude}
    (small : x.value ≤ 2 ^ 64) : ∃ y, shrink divisor times x = some y ∧ y.value ≤ 2 ^ 64 := by
  have above : 1 ≤ divisor.value := le_trans (by norm_num) large
  induction times generalizing x with
  | zero => exact ⟨x, rfl, small⟩
  | succ times inductionHypothesis =>
      by_cases zero : x.significand = 0
      · exact ⟨x, by simp [shrink, zero], small⟩
      · obtain ⟨smaller, divides⟩ := Option.isSome_iff_exists.mp (isSome_div? above small)
        obtain ⟨y, shrinks, less⟩ := inductionHypothesis (div?_le large small divides)
        refine ⟨y, ?_, less⟩
        simp only [shrink, zero, if_false, divides, shrinks]

variable {significand : ℕ} {exponent : ℤ}

private theorem exists_ofRatio?_one (fits : significand < 2 ^ 64) :
    ∃ x, ofRatio? significand 1 = some x ∧ x.value ≤ 2 ^ 64 := by
  have below : ((significand : ℕ) : ℚ) / (1 : ℕ) < 2 ^ 64 := by
    rw [Nat.cast_one, div_one]
    exact_mod_cast fits
  have present : (ofRatio? significand 1).isSome :=
    isSome_ofRatio? (by norm_num) (lt_trans below (two_pow_lt_overflow (by norm_num)))
  obtain ⟨x, rounds⟩ := Option.isSome_iff_exists.mp present
  exact ⟨x, rounds, value_le_two_pow (by norm_num) below rounds⟩

/-- A numeral with a negative exponent can be read. -/
theorem isSome_read?_of_neg (fits : significand < 2 ^ 64) (negative : exponent < 0) :
    (read? significand exponent).isSome := by
  obtain ⟨x, rounds, small⟩ := exists_ofRatio?_one fits
  have large : 2 ≤ (power maxPower).value := two_le_power (le_refl _) (by decide)
  obtain ⟨y, shrinks, less⟩ := shrink_le large (((-exponent).toNat - 1) / maxPower) small
  have left : (-exponent).toNat - ((-exponent).toNat - 1) / maxPower * maxPower ≤ maxPower := by
    unfold maxPower
    omega
  have last := isSome_div? (one_le_power left) less
  simp only [read?, rounds, negative, if_true, shrinks, Option.bind_some, last]

/-- A numeral that stays below the greatest double, also after three roundings up, can be read. -/
theorem isSome_read? (positive : 0 < significand) (fits : significand < 2 ^ 64)
    (limit : exponent ≤ maxPower)
    (small : significand * (10 : ℚ) ^ exponent * (1 + 1 / 2 ^ 53) ^ 2 < overflow) :
    (read? significand exponent).isSome := by
  by_cases negative : exponent < 0
  · exact isSome_read?_of_neg fits negative
  · obtain ⟨n, rfl⟩ := Int.eq_ofNat_of_zero_le (not_lt.mp negative)
    have least : n ≤ maxPower := by exact_mod_cast limit
    obtain ⟨x, rounds, _⟩ := exists_ofRatio?_one fits
    have above : (1 : ℚ) ≤ (significand : ℚ) / (1 : ℕ) := by
      rw [Nat.cast_one, div_one]
      exact_mod_cast positive
    have near := value_le (by norm_num) above rounds
    rw [Nat.cast_one, div_one] at near
    have product : (x.mul? (power n)).isSome := by
      apply isSome_mul?
      calc x.value * (power n).value
          ≤ (significand * (1 + 1 / 2 ^ 53)) * (10 ^ n * (1 + 1 / 2 ^ 53)) := by
            gcongr
            · exact Magnitude.value_nonneg _
            · exact power_le least
        _ = significand * (10 : ℚ) ^ (n : ℤ) * (1 + 1 / 2 ^ 53) ^ 2 := by
            rw [zpow_natCast]
            ring
        _ < overflow := small
    simp only [read?, rounds, negative, if_false, Int.toNat_natCast, least, if_true, product]

end Scaled

end TopicBus.Decimal
