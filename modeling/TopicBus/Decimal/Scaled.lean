import TopicBus.Decimal.Binary64

/-!
# Decimal text read by scaling

A decimal numeral is often read as a whole number that is then multiplied or divided by a power
of ten, each step rounding to the nearest double. The result can differ in its last bit from the
double nearest to the numeral, so a format that reads numbers this way is served by this module
and not by `Binary64.ofDecimal?`.
-/

namespace TopicBus.Decimal.Scaled

/-- The greatest power of ten that is a double. -/
def maxPower : Nat := 308

/-- The double nearest to a power of ten up to `maxPower`. -/
def power (n : Nat) : Magnitude :=
  (Magnitude.ofRatio? (Nat.pow 10 n) 1).getD ⟨0, -1074⟩

/-- Divides by a number the given number of times; zero stays zero. -/
def shrink (divisor : Magnitude) : Nat → Magnitude → Option Magnitude
  | 0, x => some x
  | times + 1, x =>
      if x.significand = 0 then some x
      else
        match x.div? divisor with
        | some smaller => shrink divisor times smaller
        | none => none

/-- The number read from `significand * 10 ^ exponent`, or nothing if a step leaves the range of
doubles. -/
def read? (significand : Nat) (exponent : Int) : Option Magnitude :=
  match Magnitude.ofRatio? significand 1 with
  | none => none
  | some x =>
      if exponent < 0 then
        let places := (-exponent).toNat
        let times := (places - 1) / maxPower
        (shrink (power maxPower) times x).bind (·.div? (power (places - times * maxPower)))
      else if exponent.toNat ≤ maxPower then x.mul? (power exponent.toNat)
      else if significand = 0 then some x
      else none

end TopicBus.Decimal.Scaled
