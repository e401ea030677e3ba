import Mathlib.Algebra.Order.Field.Power
import Mathlib.Algebra.Order.Field.Rat
import Mathlib.Tactic.FieldSimp
import Mathlib.Tactic.Linarith
import Mathlib.Tactic.NormNum
import Mathlib.Tactic.Positivity
import Mathlib.Tactic.Ring
import TopicBus.Decimal.Binary64

/-!
# How far rounding goes

A quotient that is rounded to a double moves by at most half of the last place, and it does not
pass a power of two. So only quotients near the greatest double or beyond it are lost, and the
double of a quotient that is at least one is greater by at most one part in `2 ^ 53`.
-/

namespace TopicBus.Decimal

variable {base num den : ℕ}

theorem pow_div_pow_eq_zpow (base : ℕ) (exponent : ℤ) :
    ((Nat.pow base exponent.toNat : ℕ) : ℚ) / ((Nat.pow base (-exponent).toNat : ℕ) : ℚ) =
      (base : ℚ) ^ exponent := by
  rcases Int.eq_nat_or_neg exponent with ⟨n, rfl | rfl⟩
  · simp
  · simp

theorem div_div_zpow (base num den : ℕ) (exponent : ℤ) :
    ((num * Nat.pow base (-exponent).toNat : ℕ) : ℚ) /
        ((den * Nat.pow base exponent.toNat : ℕ) : ℚ) =
      (num : ℚ) / den / (base : ℚ) ^ exponent := by
  rw [← pow_div_pow_eq_zpow base exponent, div_div_div_eq, Nat.cast_mul, Nat.cast_mul]

theorem div_lt_zpow_iff (positive : 0 < base) (above : 0 < den) (exponent : ℤ) :
    (num : ℚ) / den < (base : ℚ) ^ exponent ↔
      num * Nat.pow base (-exponent).toNat < den * Nat.pow base exponent.toNat := by
  have unit : (0 : ℚ) < (base : ℚ) ^ exponent := by positivity
  have divisor : (0 : ℚ) < ((den * Nat.pow base exponent.toNat : ℕ) : ℚ) := by
    exact_mod_cast Nat.mul_pos above (Nat.pow_pos positive)
  rw [← div_lt_one unit, ← div_div_zpow, div_lt_one divisor, Nat.cast_lt]

namespace Magnitude

/-- The number that a magnitude stands for. -/
def value (x : Magnitude) : ℚ :=
  x.significand * (2 : ℚ) ^ x.exponent

theorem value_nonneg (x : Magnitude) : 0 ≤ x.value := by
  unfold value
  positivity

theorem denominator_pos (x : Magnitude) : 0 < x.denominator :=
  Nat.pow_pos (by norm_num)

theorem numerator_div_denominator (x : Magnitude) :
    (x.numerator : ℚ) / x.denominator = x.value := by
  have scale := pow_div_pow_eq_zpow 2 x.exponent
  rw [numerator, denominator, value, Nat.cast_mul, mul_div_assoc, scale, Nat.cast_ofNat]

/-! ## The nearest whole number -/

theorem div_le_nearest (num den : ℕ) : num / den ≤ nearest num den := by
  unfold nearest
  dsimp only
  split
  · exact le_refl _
  · split
    · exact Nat.le_add_right _ _
    · exact Nat.le_add_right _ _

/-- The nearest whole number is above a quotient by at most a half. -/
theorem nearest_le (positive : 0 < den) : (nearest num den : ℚ) ≤ (num : ℚ) / den + 1 / 2 := by
  have whole : den * (num / den) + num % den = num := Nat.div_add_mod num den
  have small : num % den < den := Nat.mod_lt num positive
  have parity : den * (num / den % 2) ≤ den * 1 := Nat.mul_le_mul_left den (by omega)
  -- Times twice the denominator it is a statement about whole numbers, linear in the remainder.
  have doubled : 2 * (den * nearest num den) ≤ 2 * num + den := by
    unfold nearest
    dsimp only
    split
    · omega
    · split
      · rw [Nat.mul_add]
        omega
      · rw [Nat.mul_add]
        omega
  have cast : 2 * ((den : ℚ) * nearest num den) ≤ 2 * num + den := by exact_mod_cast doubled
  have divisor : (0 : ℚ) < den := by exact_mod_cast positive
  rw [div_add_div _ _ divisor.ne' (by norm_num), le_div_iff₀ (by positivity)]
  linarith

/-! ## The greatest power of two -/

/-- A positive quotient is between two powers of two that follow each other. -/
theorem zpow_floorLog2_le (above : 0 < num) (positive : 0 < den) :
    (2 : ℚ) ^ floorLog2 num den ≤ (num : ℚ) / den ∧
      (num : ℚ) / den < (2 : ℚ) ^ (floorLog2 num den + 1) := by
  have divisor : (0 : ℚ) < den := by exact_mod_cast positive
  have two : (2 : ℚ) ≠ 0 := by norm_num
  have numLow : (2 : ℚ) ^ (Nat.log2 num : ℤ) ≤ num := by
    exact_mod_cast Nat.log2_self_le above.ne'
  have numHigh : (num : ℚ) < (2 : ℚ) ^ ((Nat.log2 num : ℤ) + 1) := by
    exact_mod_cast Nat.lt_log2_self (n := num)
  have denLow : (2 : ℚ) ^ (Nat.log2 den : ℤ) ≤ den := by
    exact_mod_cast Nat.log2_self_le positive.ne'
  have denHigh : (den : ℚ) ≤ (2 : ℚ) ^ ((Nat.log2 den : ℤ) + 1) := by
    exact_mod_cast (Nat.lt_log2_self (n := den)).le
  -- The difference of the two logarithms is the one wanted, or one too much.
  obtain ⟨guess, isGuess⟩ : ∃ guess : ℤ, guess = (Nat.log2 num : ℤ) - (Nat.log2 den : ℤ) :=
    ⟨_, rfl⟩
  have low : (2 : ℚ) ^ (guess - 1) ≤ (num : ℚ) / den := by
    rw [le_div_iff₀ divisor]
    calc (2 : ℚ) ^ (guess - 1) * den
        ≤ (2 : ℚ) ^ (guess - 1) * (2 : ℚ) ^ ((Nat.log2 den : ℤ) + 1) := by gcongr
      _ = (2 : ℚ) ^ (Nat.log2 num : ℤ) := by
          rw [← zpow_add₀ two, isGuess]
          congr 1
          ring
      _ ≤ num := numLow
  have high : (num : ℚ) / den < (2 : ℚ) ^ (guess + 1) := by
    rw [div_lt_iff₀ divisor]
    calc (num : ℚ) < (2 : ℚ) ^ ((Nat.log2 num : ℤ) + 1) := numHigh
      _ = (2 : ℚ) ^ (guess + 1) * (2 : ℚ) ^ (Nat.log2 den : ℤ) := by
          rw [← zpow_add₀ two, isGuess]
          congr 1
          ring
      _ ≤ (2 : ℚ) ^ (guess + 1) * den := by gcongr
  have test : (num : ℚ) / den < (2 : ℚ) ^ guess ↔
      num * Nat.pow 2 (-guess).toNat < den * Nat.pow 2 guess.toNat := by
    exact_mod_cast div_lt_zpow_iff (by norm_num) positive guess
  unfold floorLog2
  dsimp only
  rw [← isGuess]
  by_cases below : num * Nat.pow 2 (-guess).toNat < den * Nat.pow 2 guess.toNat
  · rw [if_pos below, sub_add_cancel]
    exact ⟨low, test.mpr below⟩
  · rw [if_neg below]
    exact ⟨not_lt.mp fun less => below (test.mp less), high⟩

/-! ## Rounding to a double -/

/-- The exponent of the last place of the doubles around a quotient. -/
def lastPlace (num den : ℕ) : ℤ :=
  max (floorLog2 num den - 52) (-1074)

/-- The quotient in units of the last place, as a whole number. -/
def roundedPlaces (num den : ℕ) : ℕ :=
  nearest (num * Nat.pow 2 (-lastPlace num den).toNat) (den * Nat.pow 2 (lastPlace num den).toNat)

/-- The rounded quotient, whether or not it is in the range of doubles. -/
def rounded (num den : ℕ) : Magnitude :=
  if roundedPlaces num den = Nat.pow 2 53 then ⟨Nat.pow 2 52, lastPlace num den + 1⟩
  else ⟨roundedPlaces num den, lastPlace num den⟩

theorem ofRatio?_eq (above : 0 < num) :
    ofRatio? num den =
      if (rounded num den).exponent ≤ 971 then some (rounded num den) else none := by
  unfold ofRatio?
  rw [if_neg above.ne']
  rfl

theorem value_rounded (num den : ℕ) :
    (rounded num den).value = roundedPlaces num den * (2 : ℚ) ^ lastPlace num den := by
  unfold rounded
  by_cases carries : roundedPlaces num den = Nat.pow 2 53
  · rw [if_pos carries, carries, value, zpow_add₀ (by norm_num)]
    norm_num
    ring
  · rw [if_neg carries, value]

theorem roundedPlaces_le (num : ℕ) (positive : 0 < den) :
    (roundedPlaces num den : ℚ) ≤ (num : ℚ) / den / (2 : ℚ) ^ lastPlace num den + 1 / 2 := by
  have scaled := div_div_zpow 2 num den (lastPlace num den)
  rw [Nat.cast_ofNat] at scaled
  rw [← scaled]
  exact nearest_le (Nat.mul_pos positive (Nat.pow_pos (by norm_num)))

/-- Rounding does not go below a whole number of last places. -/
theorem le_roundedPlaces {places : ℕ} (positive : 0 < den)
    (below : (places : ℚ) ≤ (num : ℚ) / den / (2 : ℚ) ^ lastPlace num den) :
    places ≤ roundedPlaces num den := by
  have scaled := div_div_zpow 2 num den (lastPlace num den)
  have divisor : 0 < den * Nat.pow 2 (lastPlace num den).toNat :=
    Nat.mul_pos positive (Nat.pow_pos (by norm_num))
  rw [Nat.cast_ofNat] at scaled
  rw [← scaled, le_div_iff₀ (by exact_mod_cast divisor)] at below
  calc places ≤ _ := (Nat.le_div_iff_mul_le divisor).mpr (by exact_mod_cast below)
    _ ≤ roundedPlaces num den := div_le_nearest _ _

section Places

variable (above : 0 < num) (positive : 0 < den)

include above positive

theorem div_lastPlace_lt : (num : ℚ) / den / (2 : ℚ) ^ lastPlace num den < 2 ^ 53 := by
  have high := (zpow_floorLog2_le above positive).2
  rw [div_lt_iff₀ (by positivity)]
  calc (num : ℚ) / den < (2 : ℚ) ^ (floorLog2 num den + 1) := high
    _ ≤ (2 : ℚ) ^ (53 + lastPlace num den) := by
        apply zpow_le_zpow_right₀ (by norm_num)
        unfold lastPlace
        omega
    _ = 2 ^ 53 * (2 : ℚ) ^ lastPlace num den := by
        rw [zpow_add₀ (by norm_num)]
        norm_num

theorem roundedPlaces_le_two_pow : roundedPlaces num den ≤ 2 ^ 53 := by
  have small := div_lastPlace_lt above positive
  have near := roundedPlaces_le num positive
  have less : (roundedPlaces num den : ℚ) < 2 ^ 53 + 1 := by linarith
  exact Nat.lt_succ_iff.mp (by exact_mod_cast less)

end Places

variable {x : Magnitude}

/-- Halfway from the greatest double to the power of two above it. -/
def overflow : ℚ :=
  (2 ^ 54 - 1) * 2 ^ 970

theorem greatest_unit : (2 : ℚ) ^ (971 : ℤ) = 2 * 2 ^ 970 := by
  rw [← pow_succ']
  rfl

theorem overflow_lt : overflow < 2 ^ 1024 := by
  calc overflow < 2 ^ 54 * 2 ^ 970 := by
        unfold overflow
        gcongr
        norm_num
    _ = 2 ^ 1024 := (pow_add 2 54 970).symm

theorem two_pow_lt_overflow {k : ℕ} (small : k < 1024) : 2 ^ k < overflow := by
  calc (2 : ℚ) ^ k ≤ 2 ^ (53 + 970) := pow_le_pow_right₀ (by norm_num) (by omega)
    _ = 2 ^ 53 * 2 ^ 970 := pow_add 2 53 970
    _ < overflow := by
        unfold overflow
        gcongr
        norm_num

/-- No quotient below that number is lost. -/
theorem isSome_ofRatio? (positive : 0 < den) (small : (num : ℚ) / den < overflow) :
    (ofRatio? num den).isSome := by
  rcases Nat.eq_zero_or_pos num with rfl | above
  · rfl
  have low := (zpow_floorLog2_le above positive).1
  have near := roundedPlaces_le num positive
  have logarithm : floorLog2 num den < 1024 := by
    apply (zpow_lt_zpow_iff_right₀ (by norm_num : (1 : ℚ) < 2)).mp
    calc (2 : ℚ) ^ floorLog2 num den ≤ (num : ℚ) / den := low
      _ < overflow := small
      _ < (2 : ℚ) ^ (1024 : ℤ) := overflow_lt
  have place : lastPlace num den ≤ 971 := by
    unfold lastPlace
    omega
  have within : (rounded num den).exponent ≤ 971 := by
    unfold rounded
    by_cases carries : roundedPlaces num den = Nat.pow 2 53
    · -- At the last place of the greatest double there are not so many places.
      rw [if_pos carries]
      change lastPlace num den + 1 ≤ 971
      by_contra beyond
      have last : lastPlace num den = 971 := by omega
      rw [carries, last, ← sub_le_iff_le_add, le_div_iff₀ (by positivity)] at near
      have places : ((Nat.pow 2 53 : ℕ) : ℚ) = 2 ^ 53 := by norm_num
      rw [places, greatest_unit] at near
      unfold overflow at small
      generalize (2 : ℚ) ^ 970 = unit at near small
      linarith
    · rw [if_neg carries]
      exact place
  rw [ofRatio?_eq above, if_pos within]
  rfl

private theorem eq_rounded (above : 0 < num) (rounds : ofRatio? num den = some x) :
    x = rounded num den := by
  rw [ofRatio?_eq above] at rounds
  split at rounds
  · exact (Option.some.inj rounds).symm
  · cases rounds

theorem value_le_two_pow {k : ℕ} (positive : 0 < den) (below : (num : ℚ) / den < 2 ^ k)
    (rounds : ofRatio? num den = some x) : x.value ≤ 2 ^ k := by
  rcases Nat.eq_zero_or_pos num with rfl | above
  · cases rounds
    simp [value]
  obtain rfl := eq_rounded above rounds
  have low := (zpow_floorLog2_le above positive).1
  have logarithm : floorLog2 num den < k := by
    apply (zpow_lt_zpow_iff_right₀ (by norm_num : (1 : ℚ) < 2)).mp
    rw [zpow_natCast]
    exact lt_of_le_of_lt low below
  have places : (roundedPlaces num den : ℚ) ≤ (2 : ℚ) ^ (53 : ℤ) := by
    exact_mod_cast roundedPlaces_le_two_pow above positive
  calc (rounded num den).value = roundedPlaces num den * (2 : ℚ) ^ lastPlace num den :=
        value_rounded num den
    _ ≤ (2 : ℚ) ^ (53 : ℤ) * (2 : ℚ) ^ lastPlace num den := by gcongr
    _ = (2 : ℚ) ^ (53 + lastPlace num den) := (zpow_add₀ (by norm_num) _ _).symm
    _ ≤ (2 : ℚ) ^ (k : ℤ) := by
        apply zpow_le_zpow_right₀ (by norm_num)
        unfold lastPlace
        omega
    _ = 2 ^ k := zpow_natCast 2 k

/-- A quotient that is a power of two or more is not a subnormal: it has all the places of a
double. -/
private theorem places_of_two_pow_le {k : ℕ} (positive : 0 < den)
    (above : 2 ^ k ≤ (num : ℚ) / den) :
    0 < num ∧ k ≤ 52 + lastPlace num den ∧
      2 ^ 52 * (2 : ℚ) ^ lastPlace num den ≤ (num : ℚ) / den := by
  have nonzero : 0 < num := by
    rcases Nat.eq_zero_or_pos num with rfl | nonzero
    · rw [Nat.cast_zero, zero_div] at above
      exact absurd above (not_le.mpr (by positivity))
    · exact nonzero
  obtain ⟨low, high⟩ := zpow_floorLog2_le nonzero positive
  have less : (2 : ℚ) ^ (k : ℤ) < (2 : ℚ) ^ (floorLog2 num den + 1) := by
    rw [zpow_natCast]
    exact lt_of_le_of_lt above high
  have order := (zpow_lt_zpow_iff_right₀ (by norm_num : (1 : ℚ) < 2)).mp less
  have place : floorLog2 num den = 52 + lastPlace num den := by
    unfold lastPlace
    omega
  rw [place, zpow_add₀ (by norm_num)] at low
  exact ⟨nonzero, by omega, by exact_mod_cast low⟩

theorem two_pow_le_value {k : ℕ} (positive : 0 < den) (above : 2 ^ k ≤ (num : ℚ) / den)
    (rounds : ofRatio? num den = some x) : 2 ^ k ≤ x.value := by
  obtain ⟨nonzero, place, low⟩ := places_of_two_pow_le positive above
  obtain rfl := eq_rounded nonzero rounds
  have places : 2 ^ 52 ≤ roundedPlaces num den := by
    apply le_roundedPlaces positive
    rw [le_div_iff₀ (by positivity)]
    exact_mod_cast low
  calc (2 : ℚ) ^ k = (2 : ℚ) ^ (k : ℤ) := (zpow_natCast 2 k).symm
    _ ≤ (2 : ℚ) ^ (52 + lastPlace num den) := zpow_le_zpow_right₀ (by norm_num) place
    _ = 2 ^ 52 * (2 : ℚ) ^ lastPlace num den := by
        rw [zpow_add₀ (by norm_num)]
        norm_num
    _ ≤ roundedPlaces num den * (2 : ℚ) ^ lastPlace num den := by
        gcongr
        exact_mod_cast places
    _ = (rounded num den).value := (value_rounded num den).symm

/-- The double of a quotient that is at least one is greater by at most one part in `2 ^ 53`. -/
theorem value_le (positive : 0 < den) (above : 1 ≤ (num : ℚ) / den)
    (rounds : ofRatio? num den = some x) : x.value ≤ (num : ℚ) / den * (1 + 1 / 2 ^ 53) := by
  obtain ⟨nonzero, -, low⟩ := places_of_two_pow_le (k := 0) positive (by simpa using above)
  obtain rfl := eq_rounded nonzero rounds
  have near := roundedPlaces_le num positive
  calc (rounded num den).value = roundedPlaces num den * (2 : ℚ) ^ lastPlace num den :=
        value_rounded num den
    _ ≤ ((num : ℚ) / den / (2 : ℚ) ^ lastPlace num den + 1 / 2) * (2 : ℚ) ^ lastPlace num den := by
        gcongr
    _ = (num : ℚ) / den + 2 ^ 52 * (2 : ℚ) ^ lastPlace num den * (1 / 2 ^ 53) := by
        field_simp
    _ ≤ (num : ℚ) / den + (num : ℚ) / den * (1 / 2 ^ 53) := by gcongr
    _ = (num : ℚ) / den * (1 + 1 / 2 ^ 53) := by ring

/-- The size of a finite double. -/
structure IsDouble (x : Magnitude) : Prop where
  significand : x.significand < 2 ^ 53
  exponent : x.exponent ≤ 971

end Magnitude

theorem Binary64.isDouble_of_finite {x : Binary64} {negative : Bool} {size : Magnitude}
    (finite : x.meaning = .finite negative size) : size.IsDouble := by
  have fraction : x.bits.toNat % Nat.pow 2 52 < Nat.pow 2 52 := Nat.mod_lt _ (by decide)
  have field : x.bits.toNat / Nat.pow 2 52 % Nat.pow 2 11 < Nat.pow 2 11 :=
    Nat.mod_lt _ (by decide)
  unfold meaning at finite
  dsimp only at finite
  split at finite
  · split at finite
    · cases finite
    · cases finite
  · split at finite
    · -- The subnormals have the last exponent.
      cases finite
      constructor
      · simp only [Nat.pow_eq, Nat.reducePow] at fraction ⊢
        omega
      · norm_num
    · rename_i notGreatest _
      cases finite
      constructor
      · simp only [Nat.pow_eq, Nat.reducePow] at fraction ⊢
        omega
      · simp only [Nat.pow_eq, Nat.reducePow] at field notGreatest ⊢
        omega

end TopicBus.Decimal
