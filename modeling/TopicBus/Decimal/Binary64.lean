/-!
# Double-precision numbers, exactly

A double is its bit pattern. A finite one is a whole number times a power of two, and every
operation here is exact arithmetic on such numbers followed by one rounding to the nearest
double, a tie going to the even significand.
-/

namespace TopicBus.Decimal

/-- A double-precision number, given by its bits. -/
structure Binary64 where
  bits : UInt64
  deriving DecidableEq, Repr

/-- A finite number without its sign: `significand * 2 ^ exponent`. -/
structure Magnitude where
  significand : Nat
  exponent : Int
  deriving DecidableEq, Repr

namespace Magnitude

/-- The whole number nearest to a quotient; a tie goes to the even neighbour. -/
def nearest (num den : Nat) : Nat :=
  let quotient := num / den
  let rest := num % den
  if 2 * rest < den then quotient
  else if 2 * rest = den then quotient + quotient % 2
  else quotient + 1

/-- The exponent of the greatest power of two that is not above a positive quotient. -/
def floorLog2 (num den : Nat) : Int :=
  let guess : Int := (Nat.log2 num : Int) - (Nat.log2 den : Int)
  if num * Nat.pow 2 (-guess).toNat < den * Nat.pow 2 guess.toNat then guess - 1 else guess

/-- The double nearest to a quotient, or nothing if it is beyond the greatest one. -/
def ofRatio? (num den : Nat) : Option Magnitude :=
  if num = 0 then some ⟨0, -1074⟩
  else
    let exponent := max (floorLog2 num den - 52) (-1074)
    let significand := nearest (num * Nat.pow 2 (-exponent).toNat) (den * Nat.pow 2 exponent.toNat)
    let rounded : Magnitude :=
      if significand = Nat.pow 2 53 then ⟨Nat.pow 2 52, exponent + 1⟩ else ⟨significand, exponent⟩
    if rounded.exponent ≤ 971 then some rounded else none

/-- The numerator of the number over `denominator`. -/
def numerator (x : Magnitude) : Nat :=
  x.significand * Nat.pow 2 x.exponent.toNat

/-- The denominator of the number, a power of two. -/
def denominator (x : Magnitude) : Nat :=
  Nat.pow 2 (-x.exponent).toNat

/-- The product, rounded once. -/
def mul? (x y : Magnitude) : Option Magnitude :=
  ofRatio? (x.numerator * y.numerator) (x.denominator * y.denominator)

/-- The quotient, rounded once. -/
def div? (x y : Magnitude) : Option Magnitude :=
  ofRatio? (x.numerator * y.denominator) (x.denominator * y.numerator)

def floor (x : Magnitude) : Nat :=
  x.numerator / x.denominator

end Magnitude

namespace Binary64

/-- What a double stands for. -/
inductive Meaning
  | nan
  | infinite (negative : Bool)
  | finite (negative : Bool) (size : Magnitude)
  deriving DecidableEq, Repr

/-- Reads the sign, the exponent field and the fraction of a double. -/
def meaning (x : Binary64) : Meaning :=
  let pattern := x.bits.toNat
  let negative := decide (Nat.pow 2 63 ≤ pattern)
  let field : Nat := pattern / Nat.pow 2 52 % Nat.pow 2 11
  let fraction : Nat := pattern % Nat.pow 2 52
  if field = 2047 then
    if fraction = 0 then .infinite negative else .nan
  else if field = 0 then .finite negative ⟨fraction, -1074⟩
  else .finite negative ⟨Nat.pow 2 52 + fraction, (field : Int) - 1075⟩

/-- The double with the given sign, exponent field and fraction. -/
def ofFields (negative : Bool) (field fraction : Nat) : Binary64 :=
  ⟨UInt64.ofNat ((if negative then Nat.pow 2 63 else 0) + field * Nat.pow 2 52 + fraction)⟩

/-- The double with the given sign and size. -/
def ofMagnitude (negative : Bool) (size : Magnitude) : Binary64 :=
  if size.significand < Nat.pow 2 52 then ofFields negative 0 size.significand
  else ofFields negative (size.exponent + 1075).toNat (size.significand - Nat.pow 2 52)

def zero : Binary64 := ofFields false 0 0

/-- The one double that is no number and that operations yield. -/
def nan : Binary64 := ofFields false 2047 (Nat.pow 2 51)

def infinity (negative : Bool) : Binary64 := ofFields negative 2047 0

/-- The double nearest to a whole number, or nothing if it is beyond the greatest one. -/
def ofNat? (negative : Bool) (n : Nat) : Option Binary64 :=
  (Magnitude.ofRatio? n 1).map (ofMagnitude negative)

/-- The double nearest to `significand * 10 ^ exponent`, or nothing if it is beyond the greatest
one. Sizes that are far out of range are settled without computing the power. -/
def ofDecimal? (negative : Bool) (significand : Nat) (exponent : Int) : Option Binary64 :=
  if significand = 0 then some (ofFields negative 0 0)
  else if 310 < exponent then none
  else if exponent + Nat.log2 significand < -400 then some (ofFields negative 0 0)
  else
    (Magnitude.ofRatio? (significand * Nat.pow 10 exponent.toNat)
      (Nat.pow 10 (-exponent).toNat)).map (ofMagnitude negative)

end Binary64

end TopicBus.Decimal
