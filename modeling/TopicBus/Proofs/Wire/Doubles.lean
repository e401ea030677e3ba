import TopicBus.Proofs.Decimal.Shortest
import TopicBus.Proofs.Wire.Numerals

/-!
# Doubles, written and read

The text of a finite double is a numeral with a point or with an exponent, and the number of its
digits is that of the shortest decimal. So something is read from it, though not always the same
double, because reading by scaling rounds more than once. The other doubles are written as
`null`, which is no number.
-/

namespace TopicBus

open Text (Bytes)
open Scan (octet EndsNumber maxWord)

namespace Decimal

/-- A double that is a number. -/
def Binary64.IsFinite (x : Binary64) : Prop :=
  ∃ negative size, x.meaning = .finite negative size

theorem length_digits {n : ℕ} (positive : 0 < n) :
    (digits n).length = Shortest.digitCount n := by
  induction n using Nat.strongRecOn with
  | ind n inductionHypothesis =>
      rw [digits, Shortest.digitCount, if_neg positive.ne']
      split
      · rename_i small
        rw [Nat.div_eq_of_lt small, Shortest.digitCount]
        rfl
      · rw [List.length_append, inductionHypothesis (n / 10) (by omega) (by omega)]
        rfl

end Decimal

namespace Leaf

open Decimal (digits Layout)

/-! ## The texts of sizes -/

/-- With either sign before it, a text is that of a numeral, and the numeral stands for a double. -/
def SpellsDouble (text : List Char) : Prop :=
  ∀ negative, ∃ n : Scan.Numeral, n.negative = negative ∧ n.IsWellFormed ∧
    n.sizeOctets = ascii text ∧ ∃ x, n.value? = some (.real x)

private theorem isRun_writeNatural (n : ℕ) : Scan.Numeral.IsRun (writeNatural n) :=
  ⟨writeNatural_ne_nil n, isDigit_of_mem_writeNatural n⟩

private theorem grown_zeros (count : ℕ) (run : Bytes) :
    Scan.grown 0 (List.replicate count (octet '0') ++ run) = Scan.grown 0 run := by
  induction count with
  | zero => rfl
  | succ count inductionHypothesis => exact inductionHypothesis

private theorem digitValue_le {d : UInt8} (digit : Scan.isDigit d = true) :
    Scan.digitValue d ≤ 9 := by
  simp only [Scan.isDigit, Bool.and_eq_true, decide_eq_true_eq, UInt8.le_iff_toNat_le] at digit
  have greatest : d.toNat ≤ 57 := digit.2
  unfold Scan.digitValue
  omega

private theorem grown_lt {run : Bytes} (digits : ∀ b ∈ run, Scan.isDigit b = true) (value : ℕ) :
    Scan.grown value run < (value + 1) * 10 ^ run.length := by
  induction run generalizing value with
  | nil => simp [Scan.grown]
  | cons d rest inductionHypothesis =>
      have first : Scan.digitValue d ≤ 9 := digitValue_le (digits d List.mem_cons_self)
      have others := inductionHypothesis (fun b member => digits b (List.mem_cons_of_mem _ member))
        (value * 10 + Scan.digitValue d)
      have step : value * 10 + Scan.digitValue d + 1 ≤ (value + 1) * 10 := by omega
      calc Scan.grown value (d :: rest) = Scan.grown (value * 10 + Scan.digitValue d) rest := rfl
        _ < (value * 10 + Scan.digitValue d + 1) * 10 ^ rest.length := others
        _ ≤ (value + 1) * 10 * 10 ^ rest.length := Nat.mul_le_mul_right _ step
        _ = (value + 1) * 10 ^ (d :: rest).length := by
          rw [List.length_cons, Nat.pow_succ, Nat.mul_assoc, Nat.mul_comm 10]

/-- Two runs with a point between them stand for a double, if their digits fit a word. -/
private theorem spellsDouble_point (whole fraction : Bytes) {text : List Char}
    (wholeRun : Scan.Numeral.IsRun whole)
    (fewest : whole.head? = some (octet '0') → whole = [octet '0'])
    (fractionRun : Scan.Numeral.IsRun fraction)
    (fits : Scan.grown 0 (whole ++ fraction) ≤ maxWord)
    (same : whole ++ octet '.' :: fraction = ascii text) : SpellsDouble text := by
  intro negative
  refine ⟨⟨negative, whole, some fraction, none⟩, rfl, ⟨wholeRun, fewest, ?_, ?_⟩, ?_, ?_⟩
  · rintro _ ⟨⟩
    exact fractionRun
  · rintro _ ⟨⟩
  · rw [← same]
    simp [Scan.Numeral.sizeOctets, Scan.Numeral.fractionOctets, Scan.Numeral.exponentOctets]
  · exact Scan.Numeral.value?_of_fraction rfl fractionRun.1 rfl fits

private theorem isRun_zero : Scan.Numeral.IsRun [octet '0'] :=
  ⟨List.cons_ne_nil _ _, List.forall_mem_singleton.mpr (by decide)⟩

theorem spellsDouble_zero : SpellsDouble ['0', '.', '0'] :=
  spellsDouble_point _ _ isRun_zero (fun _ => rfl) isRun_zero (by decide) rfl

section Digits

variable {significand : ℕ}

private theorem isRun_padded (significand count : ℕ) :
    Scan.Numeral.IsRun (writeNatural significand ++ List.replicate count (octet '0')) := by
  refine ⟨by simp [writeNatural_ne_nil], fun b member => ?_⟩
  rcases List.mem_append.mp member with digit | padding
  · exact isDigit_of_mem_writeNatural significand b digit
  · rw [List.eq_of_mem_replicate padding]
    decide

private theorem spellsDouble_behind (fits : significand ≤ maxWord) (count : ℕ) :
    SpellsDouble ('0' :: '.' :: List.replicate count '0' ++ digits significand) := by
  have zero : Scan.isDigit (octet '0') = true := by decide
  apply spellsDouble_point [octet '0']
    (List.replicate count (octet '0') ++ writeNatural significand)
  · exact isRun_zero
  · exact fun _ => rfl
  · refine ⟨by simp [writeNatural_ne_nil], fun b member => ?_⟩
    rcases List.mem_append.mp member with padding | digit
    · rw [List.eq_of_mem_replicate padding]
      exact zero
    · exact isDigit_of_mem_writeNatural significand b digit
  · have same := grown_zeros (count + 1) (writeNatural significand)
    rw [grown_writeNatural] at same
    exact le_trans (le_of_eq same) fits
  · simp [ascii, writeNatural]

variable (positive : 0 < significand)

include positive

private theorem head?_writeNatural_ne : (writeNatural significand).head? ≠ some (octet '0') := by
  intro zero
  exact positive.ne' (eq_zero_of_head? zero)

private theorem spellsDouble_whole {count : ℕ}
    (short : (digits significand).length + count ≤ 16) :
    SpellsDouble (digits significand ++ List.replicate count '0' ++ ['.', '0']) := by
  apply spellsDouble_point _ _ (isRun_padded significand count) _ isRun_zero
  · -- At most seventeen digits, which fit whatever they are.
    have longer := isRun_padded significand (count + 1)
    have bound := grown_lt longer.2 0
    rw [List.append_assoc, ← List.replicate_succ']
    have length :
        (writeNatural significand ++ List.replicate (count + 1) (octet '0')).length ≤ 17 := by
      simp only [writeNatural, ascii, List.length_append, List.length_map, List.length_replicate]
      omega
    have power := Nat.pow_le_pow_right (n := 10) (by decide) length
    rw [zero_add, one_mul] at bound
    exact Nat.le_of_lt (lt_of_lt_of_le bound (le_trans power (by decide)))
  · simp [ascii, writeNatural]
  · intro front
    rw [List.head?_append_of_ne_nil _ (writeNatural_ne_nil significand)] at front
    exact absurd front (head?_writeNatural_ne positive)

private theorem spellsDouble_between (fits : significand ≤ maxWord) {front : ℕ}
    (some : 0 < front) (inside : front < (digits significand).length) :
    SpellsDouble ((digits significand).take front ++ '.' :: (digits significand).drop front) := by
  obtain ⟨nonempty, isDigit⟩ := isRun_writeNatural significand
  have length : (writeNatural significand).length = (digits significand).length :=
    List.length_map _
  have joined : (writeNatural significand).take front ++ (writeNatural significand).drop front =
    writeNatural significand := List.take_append_drop _ _
  apply spellsDouble_point ((writeNatural significand).take front)
    ((writeNatural significand).drop front)
  · exact ⟨by simp [nonempty, some.ne'], fun b member => isDigit b (List.mem_of_mem_take member)⟩
  · intro zero
    rw [List.head?_take, if_neg some.ne'] at zero
    exact absurd zero (head?_writeNatural_ne positive)
  · refine ⟨?_, fun b member => isDigit b (List.mem_of_mem_drop member)⟩
    rw [ne_eq, List.drop_eq_nil_iff, length]
    omega
  · rw [joined, grown_writeNatural]
    exact fits
  · simp [ascii, writeNatural]

end Digits

/-- The text without an exponent, of a number that has no more than sixteen digits in front of
the point. -/
private theorem spellsDouble_plain {significand : ℕ} {exponent : ℤ} (positive : 0 < significand)
    (fits : significand ≤ maxWord) (short : exponent + (digits significand).length - 1 ≤ 15) :
    SpellsDouble (Layout.plain significand exponent) := by
  unfold Layout.plain
  dsimp only
  by_cases whole : 0 ≤ exponent
  · rw [if_pos whole]
    exact spellsDouble_whole positive (by omega)
  · rw [if_neg whole]
    by_cases inside : (-exponent).toNat < (digits significand).length
    · rw [if_pos inside]
      exact spellsDouble_between positive fits (by omega) (by omega)
    · rw [if_neg inside]
      exact spellsDouble_behind fits _

section Scientific

/-- The power of ten of the first digit. -/
def leadingPower (significand : ℕ) (exponent : ℤ) : ℤ :=
  exponent + (digits significand).length - 1

/-- The numeral with one digit in front of the point and with an exponent. -/
def scientific (negative : Bool) (significand : ℕ) (exponent : ℤ) : Scan.Numeral where
  negative := negative
  whole := (writeNatural significand).take 1
  fraction :=
    if (digits significand).length ≤ 1 then none else some ((writeNatural significand).drop 1)
  exponent :=
    some (decide (leadingPower significand exponent < 0),
      writeNatural (leadingPower significand exponent).natAbs)

variable {negative : Bool} {significand : ℕ} {exponent : ℤ}

private theorem length_writeNatural (n : ℕ) : (writeNatural n).length = (digits n).length :=
  List.length_map _

private theorem length_digits_pos (n : ℕ) : 0 < (digits n).length := by
  rw [← length_writeNatural]
  exact List.length_pos_iff.mpr (writeNatural_ne_nil n)

private theorem fraction_scientific :
    (scientific negative significand exponent).fraction.getD [] =
      (writeNatural significand).drop 1 := by
  unfold scientific
  dsimp only
  split
  · rename_i short
    rw [← length_writeNatural] at short
    rw [Option.getD_none, List.drop_eq_nil_of_le short]
  · rfl

private theorem digitsValue_scientific :
    (scientific negative significand exponent).digitsValue = significand := by
  rw [Scan.Numeral.digitsValue, fraction_scientific, scientific, List.take_append_drop,
    grown_writeNatural]

private theorem fractionLength_scientific :
    (scientific negative significand exponent).fractionLength =
      (digits significand).length - 1 := by
  rw [Scan.Numeral.fractionLength, fraction_scientific, List.length_drop, length_writeNatural]

private theorem isWellFormed_scientific (positive : 0 < significand) :
    (scientific negative significand exponent).IsWellFormed := by
  obtain ⟨nonempty, isDigit⟩ := isRun_writeNatural significand
  refine ⟨⟨?_, ?_⟩, ?_, ?_, ?_⟩
  · simp [scientific, nonempty]
  · exact fun b member => isDigit b (List.mem_of_mem_take member)
  · intro zero
    rw [scientific, List.head?_take, if_neg (by decide)] at zero
    exact absurd zero (head?_writeNatural_ne positive)
  · intro run there
    unfold scientific at there
    dsimp only at there
    split at there
    · cases there
    · rename_i long
      cases there
      refine ⟨?_, fun b member => isDigit b (List.mem_of_mem_drop member)⟩
      rw [ne_eq, List.drop_eq_nil_iff, length_writeNatural]
      exact long
  · rintro _ ⟨⟩
    exact isRun_writeNatural _

private theorem sizeOctets_scientific :
    (scientific negative significand exponent).sizeOctets =
      ascii (Layout.exponential true significand exponent) := by
  unfold Scan.Numeral.sizeOctets Scan.Numeral.fractionOctets Scan.Numeral.exponentOctets
    Layout.exponential scientific leadingPower
  dsimp only
  by_cases short : (digits significand).length ≤ 1
  · by_cases below : exponent + (digits significand).length - 1 < 0
    · simp [short, below, ascii, writeNatural]
    · simp [short, below, ascii, writeNatural]
  · by_cases below : exponent + (digits significand).length - 1 < 0
    · simp [short, below, ascii, writeNatural]
    · simp [short, below, ascii, writeNatural]

theorem exponentValue?_writeNatural (n : ℕ) :
    Scan.exponentValue? (writeNatural n) = if n < Nat.pow 2 31 then some n else none := by
  have same : Scan.grown 0 (writeNatural n) = n := grown_writeNatural n
  unfold Scan.grown at same
  unfold Scan.exponentValue?
  rw [same]

/-- The text with an exponent, of a number that can be read by scaling. -/
private theorem spellsDouble_exponential (positive : 0 < significand) (fits : significand ≤ maxWord)
    (reads : (Decimal.Scaled.read? significand exponent).isSome)
    (limit : leadingPower significand exponent ≤ Decimal.Scaled.maxPower) :
    SpellsDouble (Layout.exponential true significand exponent) := by
  intro negative
  refine ⟨scientific negative significand exponent, rfl, isWellFormed_scientific positive,
    sizeOctets_scientific, ?_⟩
  have least := length_digits_pos significand
  apply Scan.Numeral.value?_of_exponent rfl
  · rw [digitsValue_scientific]
    exact fits
  · intro power known
    rw [exponentValue?_writeNatural] at known
    obtain rfl : (leadingPower significand exponent).natAbs = power := by
      split at known
      · exact Option.some.inj known
      · cases known
    -- The digits behind the point and the power of the first digit make up the exponent again.
    have same : (if decide (leadingPower significand exponent < 0) = true then
          -(((digits significand).length - 1 : ℕ) : ℤ) - (leadingPower significand exponent).natAbs
        else -(((digits significand).length - 1 : ℕ) : ℤ) +
          (leadingPower significand exponent).natAbs) = exponent := by
      simp only [decide_eq_true_eq]
      unfold leadingPower
      split
      · omega
      · omega
    rw [digitsValue_scientific, fractionLength_scientific, same]
    exact reads
  · -- A power that fits no word of 31 bits is one below zero.
    intro unknown
    rw [exponentValue?_writeNatural] at unknown
    split at unknown
    · cases unknown
    · rename_i huge
      have large : (2 : ℕ) ^ 31 = 2147483648 := by norm_num
      rw [Nat.pow_eq, large] at huge
      unfold Decimal.Scaled.maxPower at limit
      exact decide_eq_true (by omega)

end Scientific

/-! ## All doubles -/

/-- A power of ten with as many digits as a number is not above it. -/
theorem zpow_leadingPower_le {n : Decimal.Numeral} (positive : 0 < n.significand) :
    (10 : ℚ) ^ leadingPower n.significand n.exponent ≤ n.value := by
  have count := Decimal.length_digits positive
  have pos := Decimal.Shortest.digitCount_pos positive
  have low := (Decimal.Shortest.ten_pow_digitCount_le positive).1
  have power : leadingPower n.significand n.exponent =
      ((Decimal.Shortest.digitCount n.significand - 1 : ℕ) : ℤ) + n.exponent := by
    unfold leadingPower
    omega
  rw [power, zpow_add₀ (by norm_num), zpow_natCast, Decimal.Numeral.value]
  gcongr
  exact_mod_cast low

theorem spellsDouble_size {x : Decimal.Magnitude} (double : x.IsDouble) :
    SpellsDouble (Number.layout.size x) := by
  unfold Layout.size
  by_cases zero : x.significand = 0
  · rw [if_pos zero]
    exact spellsDouble_zero
  · rw [if_neg zero]
    dsimp only
    have positive : 0 < x.significand := Nat.pos_of_ne_zero zero
    have near := Decimal.Shortest.isNear_numeral Number.layout.tie positive
    have reads := Decimal.Shortest.isSome_read?_numeral double positive Number.layout.tie
    have fits : (Decimal.Shortest.numeral Number.layout.tie x).significand ≤ maxWord :=
      le_trans near.fits (by decide)
    split
    · rename_i plain
      exact spellsDouble_plain near.positive fits plain.2
    · have limit := Decimal.Shortest.le_maxPower double positive _
        (zpow_leadingPower_le near.positive)
      exact spellsDouble_exponential near.positive fits reads limit

variable {x : Decimal.Binary64}

/-- From the text of a finite double a double is read. -/
theorem read_real_of_isFinite (finite : x.IsFinite) :
    ∃ y, ∀ rest, EndsNumber rest →
      Leaf.real.read (ascii (Number.write (.real x)).toList ++ rest) = .ok (y, rest) := by
  obtain ⟨negative, size, meaning⟩ := finite
  obtain ⟨n, rfl, formed, same, y, value⟩ :=
    spellsDouble_size (Decimal.Binary64.isDouble_of_finite meaning) negative
  refine ⟨y, fun rest ends => ?_⟩
  have octets : ascii (Number.write (.real x)).toList = n.octets := by
    rw [Number.write, Layout.write, meaning]
    dsimp only
    rw [String.toList_ofList, Scan.Numeral.octets, same]
    split
    · rfl
    · rfl
  have number := Scan.number_octets formed value ends
  obtain ⟨first, tail, shape, starts⟩ := formed.starts
  rw [octets]
  rw [shape, List.cons_append] at number ⊢
  simp only [read, readNumber, Scan.skipSpace_cons (Scan.isSpace_of_startsNumber starts), starts,
    if_true, number, real?]

/-- The text of any other double is no number. -/
theorem read_real_of_not_isFinite (strange : ¬ x.IsFinite) (rest : Bytes) :
    Leaf.real.read (ascii (Number.write (.real x)).toList ++ rest) = .error .mismatched := by
  have null : Number.write (.real x) = "null" := by
    rw [Number.write, Layout.write]
    cases meaning : x.meaning with
    | nan => rfl
    | infinite negative =>
        cases negative with
        | true => rfl
        | false => rfl
    | finite negative size => exact absurd ⟨negative, size, meaning⟩ strange
  have letters : ascii "null".toList = octet 'n' :: Scan.letters "ull" := by decide
  have solid : Scan.isSpace (octet 'n') = false := by decide
  have noNumber : Scan.startsNumber (octet 'n') = false := by decide
  have word : Scan.word (Scan.letters "ull") (Scan.letters "ull" ++ rest) = .ok rest := by
    simp [Scan.letters, Scan.word]
  rw [null, letters, List.cons_append]
  simp [read, readNumber, Scan.skipSpace_cons solid, noNumber, mismatch, word]

end Leaf

end TopicBus
