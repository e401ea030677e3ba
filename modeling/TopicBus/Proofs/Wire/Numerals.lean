import TopicBus.Proofs.Decimal.Scaling
import TopicBus.Proofs.Wire.Numbers

/-!
# Numerals with all their parts

The octets of a numeral are its sign, the digits before the point, the point and the digits
behind it, and the exponent with its sign. Each part is taken up to its end, because the next
one begins with an octet that the part cannot go on with. A numeral with a point or an exponent
stands for a double.
-/

namespace TopicBus.Scan

open Text (Bytes)

namespace Numeral

/-- The point and the digits behind it. -/
def fractionOctets (n : Numeral) : Bytes :=
  match n.fraction with
  | none => []
  | some run => octet '.' :: run

/-- The exponent, whose sign is always there. -/
def exponentOctets (n : Numeral) : Bytes :=
  match n.exponent with
  | none => []
  | some (below, run) => octet 'e' :: octet (if below then '-' else '+') :: run

/-- The octets of a numeral without its sign. -/
def sizeOctets (n : Numeral) : Bytes :=
  n.whole ++ n.fractionOctets ++ n.exponentOctets

def octets (n : Numeral) : Bytes :=
  if n.negative then octet '-' :: n.sizeOctets else n.sizeOctets

def IsRun (run : Bytes) : Prop :=
  run ≠ [] ∧ ∀ b ∈ run, isDigit b = true

/-- Every part of a numeral is a run of digits, and the first one has no zero at its front that
it does not need. -/
structure IsWellFormed (n : Numeral) : Prop where
  whole : IsRun n.whole
  fewest : n.whole.head? = some (octet '0') → n.whole = [octet '0']
  fraction : ∀ run ∈ n.fraction, IsRun run
  exponent : ∀ part ∈ n.exponent, IsRun part.2

variable {n : Numeral} {rest : Bytes}

/-! ## Taking the parts -/

private theorem exponentDigits_octets (formed : n.IsWellFormed) (ends : EndsNumber rest) :
    exponentDigits (n.exponentOctets ++ rest) = .ok (n.exponent, rest) := by
  unfold exponentOctets
  cases there : n.exponent with
  | none => exact ends.exponentDigits
  | some part =>
      obtain ⟨below, run⟩ := part
      obtain ⟨nonempty, digits⟩ := formed.exponent _ there
      have taken := digitRun_append digits nonempty ends.endsRun
      have different : octet '-' ≠ octet '+' := by decide
      cases below with
      | true => simp [exponentDigits, different, taken, Except.map]
      | false => simp [exponentDigits, taken, Except.map]

private theorem endsRun_exponent (ends : EndsNumber rest) : EndsRun (n.exponentOctets ++ rest) := by
  unfold exponentOctets
  cases n.exponent with
  | none => exact ends.endsRun
  | some part =>
      rintro b ⟨⟩
      decide

private theorem fractionDigits_octets (formed : n.IsWellFormed) (ends : EndsNumber rest) :
    fractionDigits (n.fractionOctets ++ (n.exponentOctets ++ rest)) =
      .ok (n.fraction, n.exponentOctets ++ rest) := by
  unfold fractionOctets
  cases there : n.fraction with
  | none =>
      unfold exponentOctets
      cases n.exponent with
      | none => exact ends.fractionDigits
      | some part =>
          have different : octet 'e' ≠ octet '.' := by decide
          simp [fractionDigits, different]
  | some run =>
      obtain ⟨nonempty, digits⟩ := formed.fraction _ there
      have taken := digitRun_append digits nonempty (endsRun_exponent (n := n) ends)
      simp [fractionDigits, taken, Except.map]

private theorem endsRun_fraction (ends : EndsNumber rest) :
    EndsRun (n.fractionOctets ++ (n.exponentOctets ++ rest)) := by
  unfold fractionOctets
  cases n.fraction with
  | none => exact endsRun_exponent ends
  | some run =>
      rintro b ⟨⟩
      decide

/-- A numeral is taken from its octets, up to their end. -/
theorem numeral_octets (formed : n.IsWellFormed) (ends : EndsNumber rest) :
    numeral (n.octets ++ rest) = .ok (n, rest) := by
  obtain ⟨nonempty, digits⟩ := formed.whole
  have whole := wholeDigits_append digits nonempty formed.fewest (endsRun_fraction (n := n) ends)
  have fraction := fractionDigits_octets formed ends
  have exponent := exponentDigits_octets formed ends
  unfold octets sizeOctets
  by_cases sign : n.negative = true
  · rw [if_pos sign]
    simp only [List.cons_append, List.append_assoc, numeral, if_true, whole, fraction, exponent,
      bind, Except.bind, pure, Except.pure, ← sign]
  · rw [if_neg sign]
    obtain ⟨first, tail, shape⟩ := List.exists_cons_of_ne_nil nonempty
    have unsigned : first ≠ octet '-' := by
      rintro rfl
      have digit := digits (octet '-') (by simp [shape])
      revert digit
      decide
    rw [Bool.not_eq_true] at sign
    rw [shape, List.cons_append] at whole
    simp only [shape, List.cons_append, List.append_assoc, numeral, unsigned, if_false, whole,
      fraction, exponent, bind, Except.bind, pure, Except.pure, ← sign]
    rw [← shape]

theorem IsWellFormed.starts (formed : n.IsWellFormed) :
    ∃ first tail, n.octets = first :: tail ∧ startsNumber first = true := by
  obtain ⟨nonempty, digits⟩ := formed.whole
  unfold octets sizeOctets
  by_cases sign : n.negative = true
  · rw [if_pos sign]
    exact ⟨octet '-', _, rfl, by decide⟩
  · rw [if_neg sign]
    obtain ⟨first, tail, shape⟩ := List.exists_cons_of_ne_nil nonempty
    rw [shape]
    have digit := digits first (by simp [shape])
    exact ⟨first, _, rfl, by simp [startsNumber, digit]⟩

/-! ## The number of a numeral -/

/-- The number that all digits in front of the exponent stand for. -/
def digitsValue (n : Numeral) : Nat :=
  grown 0 (n.whole ++ n.fraction.getD [])

def fractionLength (n : Numeral) : Nat :=
  (n.fraction.getD []).length

private theorem gather_parts (fits : n.digitsValue ≤ maxWord) :
    gather 0 n.whole = (grown 0 n.whole, []) ∧
      gather (grown 0 n.whole) (n.fraction.getD []) = (n.digitsValue, []) := by
  have joined : n.digitsValue = grown (grown 0 n.whole) (n.fraction.getD []) := List.foldl_append
  have part : grown 0 n.whole ≤ n.digitsValue := by
    rw [joined]
    exact le_grown _ _
  have all : grown (grown 0 n.whole) (n.fraction.getD []) ≤ maxWord := joined ▸ fits
  rw [joined]
  exact ⟨gather_of_le (Nat.le_trans part fits), gather_of_le all⟩

theorem value?_of_fraction {run : Bytes} (there : n.fraction = some run) (nonempty : run ≠ [])
    (noExponent : n.exponent = none) (fits : n.digitsValue ≤ maxWord) :
    ∃ x, n.value? = some (.real x) := by
  obtain ⟨whole, fraction⟩ := gather_parts fits
  rw [there, Option.getD_some] at fraction
  have small : n.digitsValue < 2 ^ 64 := Nat.lt_of_le_of_lt fits (by decide)
  have below : -(run.length : Int) < 0 := by
    have := List.length_pos_iff.mpr nonempty
    omega
  obtain ⟨size, reads⟩ :=
    Option.isSome_iff_exists.mp (Decimal.Scaled.isSome_read?_of_neg small below)
  refine ⟨.ofMagnitude n.negative size, ?_⟩
  simp [value?, whole, there, noExponent, fraction, reads, signed]

theorem value?_of_exponent {below : Bool} {run : Bytes} (there : n.exponent = some (below, run))
    (fits : n.digitsValue ≤ maxWord)
    (reads : ∀ power, exponentValue? run = some power →
      (Decimal.Scaled.read? n.digitsValue
        (if below then -(n.fractionLength : Int) - power
        else -(n.fractionLength : Int) + power)).isSome)
    (tiny : exponentValue? run = none → below = true) : ∃ x, n.value? = some (.real x) := by
  obtain ⟨whole, fraction⟩ := gather_parts fits
  unfold fractionLength at reads
  cases known : exponentValue? run with
  | none =>
      refine ⟨.ofFields n.negative 0 0, ?_⟩
      simp [value?, whole, there, fraction, known, tiny known]
  | some power =>
      obtain ⟨size, found⟩ := Option.isSome_iff_exists.mp (reads power known)
      refine ⟨.ofMagnitude n.negative size, ?_⟩
      simp [value?, whole, there, fraction, known, found, signed]

end Numeral

/-- A numeral that stands for a double is read as it. -/
theorem number_octets {n : Numeral} {rest : Bytes} {x : Decimal.Binary64} (formed : n.IsWellFormed)
    (value : n.value? = some (.real x)) (ends : EndsNumber rest) :
    number (n.octets ++ rest) = .ok (.real x, rest) := by
  rw [number, Numeral.numeral_octets formed ends]
  simp only [value]

end TopicBus.Scan
