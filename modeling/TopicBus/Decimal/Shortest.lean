import TopicBus.Decimal.Binary64

/-!
# The shortest decimal that reads back

Every real number nearer to a double than to its neighbours rounds to it; the two ends of that
interval do so exactly when the significand is even. The shortest decimal of a double is the
point of that interval on the coarsest decimal grid that has one, and of the two neighbours of
the double on that grid the nearer. Where both are equally near, a `Tie` decides.
-/

namespace TopicBus.Decimal

/-- A decimal number: `significand * 10 ^ exponent`. -/
structure Numeral where
  significand : Nat
  exponent : Int
  deriving DecidableEq, Repr

namespace Numeral

/-- The same number with no zero at the end of its significand. -/
def trimmed (significand : Nat) (exponent : Int) : Numeral :=
  if significand = 0 ∨ significand % 10 ≠ 0 then ⟨significand, exponent⟩
  else trimmed (significand / 10) (exponent + 1)
termination_by significand
decreasing_by omega

end Numeral

/-- Which of two equally near neighbours is taken. -/
inductive Tie
  /-- The one whose last digit is even. -/
  | toEven
  /-- The one further from zero. -/
  | away
  deriving DecidableEq, Repr

/-- Whether the upper neighbour is taken in a tie, given the significand of the lower one. -/
def Tie.takesUpper (tie : Tie) (floor : Nat) : Bool :=
  match tie with
  | .toEven => floor % 2 == 1
  | .away => true

namespace Shortest

/-- The number of decimal digits of a number; zero has none. -/
def digitCount (n : Nat) : Nat :=
  if n = 0 then 0 else digitCount (n / 10) + 1
termination_by n

/-- The exponent of the greatest power of ten that is not above a positive quotient. -/
def floorLog10 (num den : Nat) : Int :=
  if den ≤ num then (digitCount (num / den) : Int) - 1
  else
    let count := digitCount (den / num)
    if den ≤ num * Nat.pow 10 (count - 1) then -((count : Int) - 1) else -(count : Int)

/-- A double and the two ends of the interval of reals that round to it, as numerators over one
denominator. -/
structure Interval where
  low : Nat
  value : Nat
  high : Nat
  den : Nat
  closed : Bool
  deriving DecidableEq, Repr

/-- The interval of a positive double. Below a power of two the neighbour is only half as far. -/
def interval (x : Magnitude) : Interval :=
  let scale := Nat.pow 2 (x.exponent - 2).toNat
  -- Quarters of the last place, in which half the distance to either neighbour is whole.
  let below := if x.significand = Nat.pow 2 52 ∧ -1074 < x.exponent then 1 else 2
  { low := (4 * x.significand - below) * scale
    value := 4 * x.significand * scale
    high := (4 * x.significand + 2) * scale
    den := Nat.pow 2 (2 - x.exponent).toNat
    closed := x.significand % 2 == 0 }

/-- Whether `candidate * grid / step` lies in the interval. -/
def Interval.holds (range : Interval) (candidate grid step : Nat) : Bool :=
  let point := candidate * grid
  if range.closed then range.low * step ≤ point && point ≤ range.high * step
  else range.low * step < point && point < range.high * step

/-- The point of the interval on the grid of multiples of `10 ^ exponent` that is nearest to the
value, if the interval holds one of the two neighbours of the value. -/
def onGrid? (tie : Tie) (range : Interval) (exponent : Int) : Option Nat :=
  let grid := range.den * Nat.pow 10 exponent.toNat
  let step := Nat.pow 10 (-exponent).toNat
  let floor := range.value * step / grid
  let rest := range.value * step % grid
  let upperNearer := grid < 2 * rest || (2 * rest == grid && tie.takesUpper floor)
  let lowerHeld := range.holds floor grid step
  let upperHeld := range.holds (floor + 1) grid step
  if lowerHeld && upperHeld then some (if upperNearer then floor + 1 else floor)
  else if lowerHeld then some floor
  else if upperHeld then some (floor + 1)
  else none

/-- The first hit on grids from the given one on, each ten times as fine as the one before. -/
def search (tie : Tie) (range : Interval) : Nat → Int → Numeral
  | 0, exponent =>
      ⟨range.value * Nat.pow 10 (-exponent).toNat / (range.den * Nat.pow 10 exponent.toNat),
        exponent⟩
  | tries + 1, exponent =>
      match onGrid? tie range exponent with
      | some significand => Numeral.trimmed significand exponent
      | none => search tie range tries (exponent - 1)

/-- The shortest decimal that rounds to a positive double. Seventeen digits always suffice. -/
def numeral (tie : Tie) (x : Magnitude) : Numeral :=
  let range := interval x
  search tie range 17 (floorLog10 range.value range.den)

end Shortest

end TopicBus.Decimal
