import TopicBus.Wire.Leaf

/-!
# Whole numbers, written and read back

A whole number is written with its fewest digits, and the reader takes them all as long as no
octet follows that a number may go on with. Within 64 bits the number that is read is the one
that was written.
-/

namespace TopicBus

open Text (Bytes)

namespace Scan

theorem skipSpace_cons {b : UInt8} (solid : isSpace b = false) (rest : Bytes) :
    skipSpace (b :: rest) = b :: rest := by
  simp [skipSpace, solid]

theorem isSpace_of_isDigit {b : UInt8} (digit : isDigit b = true) : isSpace b = false := by
  simp only [isDigit, octet, Bool.and_eq_true, decide_eq_true_eq, UInt8.le_iff_toNat_le] at digit
  simp only [isSpace, Bool.or_eq_false_iff, beq_eq_false_iff_ne, ne_eq, ← UInt8.toNat_inj]
  have least : (48 : Nat) ≤ b.toNat := digit.1
  refine ⟨⟨⟨?_, ?_⟩, ?_⟩, ?_⟩
  · exact fun same => absurd (same ▸ least) (by decide)
  · exact fun same => absurd (same ▸ least) (by decide)
  · exact fun same => absurd (same ▸ least) (by decide)
  · exact fun same => absurd (same ▸ least) (by decide)

theorem isSpace_of_startsNumber {b : UInt8} (starts : startsNumber b = true) :
    isSpace b = false := by
  rw [startsNumber, Bool.or_eq_true, beq_iff_eq] at starts
  rcases starts with minus | digit
  · rw [minus]
    decide
  · exact isSpace_of_isDigit digit

/-- Whether a number may go on with an octet. -/
def continuesNumber (b : UInt8) : Bool :=
  isDigit b || b == octet '.' || b == octet 'e' || b == octet 'E'

/-- No number goes on with the octets. -/
def EndsNumber (bytes : Bytes) : Prop :=
  ∀ b ∈ bytes.head?, continuesNumber b = false

theorem endsNumber_nil : EndsNumber [] := by
  intro b there
  cases there

theorem endsNumber_cons {b : UInt8} (ends : continuesNumber b = false) (rest : Bytes) :
    EndsNumber (b :: rest) := by
  rintro _ ⟨⟩
  exact ends

theorem EndsNumber.front {front bytes : Bytes} (ends : EndsNumber bytes)
    (before : front <+: bytes) : EndsNumber front := by
  obtain ⟨rest, rfl⟩ := before
  cases front with
  | nil => exact endsNumber_nil
  | cons b tail => exact endsNumber_cons (ends b rfl) tail

/-- No run of digits goes on with the octets. -/
def EndsRun (bytes : Bytes) : Prop :=
  ∀ b ∈ bytes.head?, isDigit b = false

variable {run rest : Bytes}

theorem EndsNumber.endsRun (ends : EndsNumber rest) : EndsRun rest := by
  intro b first
  have ended := ends b first
  simp only [continuesNumber, Bool.or_eq_false_iff] at ended
  exact ended.1.1.1

private theorem EndsRun.takeWhile (ends : EndsRun rest) :
    rest.takeWhile isDigit = [] ∧ rest.dropWhile isDigit = rest := by
  cases rest with
  | nil => exact ⟨rfl, rfl⟩
  | cons b tail => simp [ends b rfl]

theorem digitRun_append (digits : ∀ b ∈ run, isDigit b = true) (nonempty : run ≠ [])
    (ends : EndsRun rest) : digitRun (run ++ rest) = .ok (run, rest) := by
  obtain ⟨taken, dropped⟩ := ends.takeWhile
  cases run with
  | nil => exact absurd rfl nonempty
  | cons b tail =>
      have first : isDigit b = true := digits b List.mem_cons_self
      have whole : (b :: tail ++ rest).takeWhile isDigit = b :: tail := by
        rw [List.takeWhile_append_of_pos digits, taken, List.append_nil]
      have left : (b :: tail ++ rest).dropWhile isDigit = rest := by
        rw [List.dropWhile_append_of_pos digits, dropped]
      rw [List.cons_append] at whole left ⊢
      simp only [digitRun, first, if_true, whole, left]

/-- The digits of a whole number are taken up to their end. -/
theorem wholeDigits_append (digits : ∀ b ∈ run, isDigit b = true) (nonempty : run ≠ [])
    (fewest : run.head? = some (octet '0') → run = [octet '0']) (ends : EndsRun rest) :
    wholeDigits (run ++ rest) = .ok (run, rest) := by
  cases run with
  | nil => exact absurd rfl nonempty
  | cons b tail =>
      by_cases zero : b = octet '0'
      · subst zero
        obtain rfl : tail = [] := by simpa using fewest rfl
        cases rest with
        | nil => rfl
        | cons c more => simp [wholeDigits, ends c rfl]
      · have read := digitRun_append digits nonempty ends
        rw [List.cons_append] at read ⊢
        simp only [wholeDigits, zero, if_false]
        exact read

theorem EndsNumber.fractionDigits (ends : EndsNumber rest) :
    Scan.fractionDigits rest = .ok (none, rest) := by
  cases rest with
  | nil => rfl
  | cons b tail =>
      have ended := ends b rfl
      simp only [continuesNumber, Bool.or_eq_false_iff, beq_eq_false_iff_ne] at ended
      simp only [Scan.fractionDigits, ended.1.1.2, if_false]

theorem EndsNumber.exponentDigits (ends : EndsNumber rest) :
    Scan.exponentDigits rest = .ok (none, rest) := by
  cases rest with
  | nil => rfl
  | cons b tail =>
      have ended := ends b rfl
      simp only [continuesNumber, Bool.or_eq_false_iff, beq_eq_false_iff_ne] at ended
      simp only [Scan.exponentDigits, ended.1.2, ended.2, or_self, if_false]

/-! ## The number of a run of digits -/

/-- The number that digits stand for behind a number. -/
def grown (value : Nat) (run : Bytes) : Nat :=
  run.foldl (fun value d => value * 10 + digitValue d) value

theorem le_grown (value : Nat) (run : Bytes) : value ≤ grown value run := by
  induction run generalizing value with
  | nil => exact Nat.le_refl _
  | cons d rest inductionHypothesis =>
      have more := inductionHypothesis (value * 10 + digitValue d)
      have first : value ≤ value * 10 + digitValue d := by omega
      exact Nat.le_trans first more

/-- A number that fits is gathered whole. -/
theorem gather_of_le {value : Nat} (fits : grown value run ≤ maxWord) :
    gather value run = (grown value run, []) := by
  induction run generalizing value with
  | nil => rfl
  | cons d rest inductionHypothesis =>
      -- No number on the way is larger than the last one.
      have step : value * 10 + digitValue d ≤ maxWord := Nat.le_trans (le_grown _ rest) fits
      simp only [gather, step, if_true]
      exact inductionHypothesis fits

end Scan

namespace Leaf

open Scan

private theorem octet_digit {n : Nat} (small : n < 10) :
    isDigit (octet (Decimal.digit n)) = true ∧ digitValue (octet (Decimal.digit n)) = n ∧
      (octet (Decimal.digit n) = octet '0' → n = 0) := by
  have all : ∀ n < 10, isDigit (octet (Decimal.digit n)) = true ∧
      digitValue (octet (Decimal.digit n)) = n ∧
      (octet (Decimal.digit n) = octet '0' → n = 0) := by
    decide
  exact all n small

/-- A number of one digit is that digit, and a larger one has its last digit at its end. -/
private theorem writeNatural_eq (n : Nat) :
    writeNatural n =
      if n < 10 then [octet (Decimal.digit n)]
      else writeNatural (n / 10) ++ [octet (Decimal.digit (n % 10))] := by
  rw [writeNatural, Decimal.digits]
  split
  · rfl
  · simp [writeNatural, ascii]

theorem isDigit_of_mem_writeNatural (n : Nat) : ∀ b ∈ writeNatural n, isDigit b = true := by
  induction n using Nat.strongRecOn with
  | ind n inductionHypothesis =>
      rw [writeNatural_eq]
      split
      · rename_i small
        rintro b (_ | ⟨_, ⟨⟩⟩)
        exact (octet_digit small).1
      · intro b member
        rcases List.mem_append.mp member with before | last
        · exact inductionHypothesis (n / 10) (by omega) b before
        · cases List.mem_singleton.mp last
          exact (octet_digit (Nat.mod_lt n (by omega))).1

theorem writeNatural_ne_nil (n : Nat) : writeNatural n ≠ [] := by
  rw [writeNatural_eq]
  split
  · simp
  · simp

/-- No number but zero is written with a zero at its front. -/
theorem eq_zero_of_head? {n : Nat} (zero : (writeNatural n).head? = some (octet '0')) :
    n = 0 := by
  induction n using Nat.strongRecOn with
  | ind n inductionHypothesis =>
      rw [writeNatural_eq] at zero
      split at zero
      · rename_i small
        exact (octet_digit small).2.2 (Option.some.inj zero)
      · obtain ⟨first, tail, shape⟩ := List.exists_cons_of_ne_nil (writeNatural_ne_nil (n / 10))
        have front : (writeNatural (n / 10)).head? = some (octet '0') := by
          simpa [shape] using zero
        have := inductionHypothesis (n / 10) (by omega) front
        omega

theorem grown_writeNatural (n : Nat) : grown 0 (writeNatural n) = n := by
  induction n using Nat.strongRecOn with
  | ind n inductionHypothesis =>
      rw [writeNatural_eq]
      split
      · rename_i small
        simp [grown, (octet_digit small).2.1]
      · have before := inductionHypothesis (n / 10) (by omega)
        unfold grown at before
        simp only [grown, List.foldl_append, List.foldl_cons, List.foldl_nil, before,
          (octet_digit (Nat.mod_lt n (by omega : 0 < 10))).2.1]
        omega

/-- What stands at the front of a number is a smaller number. -/
theorem eq_writeNatural_of_prefix {n : Nat} {front : Bytes} (before : front <+: writeNatural n)
    (nonempty : front ≠ []) : ∃ m ≤ n, front = writeNatural m := by
  induction n using Nat.strongRecOn with
  | ind n inductionHypothesis =>
      have whole := writeNatural_eq n
      split at whole
      · -- Nothing but the whole stands at the front of one digit.
        refine ⟨n, Nat.le_refl n, ?_⟩
        rw [whole] at before ⊢
        rcases List.prefix_cons_iff.mp before with empty | ⟨rest, shape, further⟩
        · exact absurd empty nonempty
        · rw [shape, List.prefix_nil.mp further]
      · rw [whole] at before
        rcases List.prefix_concat_iff.mp before with same | shorter
        · exact ⟨n, Nat.le_refl n, same.trans whole.symm⟩
        · obtain ⟨m, less, shape⟩ := inductionHypothesis (n / 10) (by omega) shorter
          exact ⟨m, Nat.le_trans less (Nat.div_le_self n 10), shape⟩

private theorem gather_writeNatural {n : Nat} (fits : n ≤ maxWord) :
    gather 0 (writeNatural n) = (n, []) := by
  have same := grown_writeNatural n
  have gathered : gather 0 (writeNatural n) = (grown 0 (writeNatural n), []) := by
    apply gather_of_le
    rw [same]
    exact fits
  rw [gathered, same]

private theorem writeNatural_shape (n : Nat) :
    ∃ first tail, writeNatural n = first :: tail ∧ isDigit first = true := by
  cases shape : writeNatural n with
  | nil => exact absurd shape (writeNatural_ne_nil n)
  | cons first tail =>
      exact ⟨first, tail, rfl, isDigit_of_mem_writeNatural n first (by simp [shape])⟩

private theorem wholeDigits_writeNatural (n : Nat) {rest : Bytes} (ends : EndsNumber rest) :
    wholeDigits (writeNatural n ++ rest) = .ok (writeNatural n, rest) := by
  refine wholeDigits_append (isDigit_of_mem_writeNatural n) (writeNatural_ne_nil n) ?_
    ends.endsRun
  intro zero
  obtain rfl := eq_zero_of_head? zero
  rw [writeNatural_eq]
  rfl

/-- A number of 64 bits is read back. -/
theorem number_writeNatural {n : Nat} (fits : n ≤ maxWord) {rest : Bytes} (ends : EndsNumber rest) :
    Scan.number (writeNatural n ++ rest) = .ok (.natural n, rest) := by
  have gathered := gather_writeNatural fits
  have taken : numeral (writeNatural n ++ rest) =
      .ok (⟨false, writeNatural n, none, none⟩, rest) := by
    obtain ⟨first, tail, shape, digit⟩ := writeNatural_shape n
    have unsigned : first ≠ octet '-' := by
      rintro rfl
      revert digit
      decide
    have whole := wholeDigits_writeNatural n ends
    rw [shape, List.cons_append] at whole ⊢
    simp only [numeral, unsigned, if_false, whole, ends.fractionDigits, ends.exponentDigits, bind,
      Except.bind, pure, Except.pure]
  simp [Scan.number, taken, Numeral.value?, gathered]

theorem number_writeNegative {n : Nat} (positive : n ≠ 0) (fits : n ≤ Nat.pow 2 63) {rest : Bytes}
    (ends : EndsNumber rest) :
    Scan.number (octet '-' :: (writeNatural n ++ rest)) = .ok (.negative n, rest) := by
  have within : n ≤ maxWord := Nat.le_trans fits (by decide)
  have gathered := gather_writeNatural within
  have taken : numeral (octet '-' :: (writeNatural n ++ rest)) =
      .ok (⟨true, writeNatural n, none, none⟩, rest) := by
    have whole := wholeDigits_writeNatural n ends
    simp only [numeral, if_true, whole, ends.fractionDigits, ends.exponentDigits, bind,
      Except.bind, pure, Except.pure]
  simp [Scan.number, taken, Numeral.value?, gathered, positive, fits]

/-! ## Words -/

variable {α : Type} {fit : Number → Option α} {value : α} {rest : Bytes}

theorem readNumber_writeNatural {n : Nat} (fits : n ≤ maxWord)
    (placed : fit (.natural n) = some value) (ends : EndsNumber rest) :
    readNumber fit (writeNatural n ++ rest) = .ok (value, rest) := by
  obtain ⟨first, tail, shape, digit⟩ := writeNatural_shape n
  have read := number_writeNatural fits ends
  rw [shape, List.cons_append] at read ⊢
  simp [readNumber, skipSpace_cons (isSpace_of_isDigit digit), startsNumber, digit, read, placed]

theorem readNumber_writeNegative {n : Nat} (positive : n ≠ 0) (fits : n ≤ Nat.pow 2 63)
    (placed : fit (.negative n) = some value) (ends : EndsNumber rest) :
    readNumber fit (octet '-' :: (writeNatural n ++ rest)) = .ok (value, rest) := by
  have read := number_writeNegative positive fits ends
  have solid : isSpace (octet '-') = false := by decide
  simp [readNumber, skipSpace_cons solid, startsNumber, read, placed]

end Leaf

end TopicBus
