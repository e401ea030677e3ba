import TopicBus.Decimal.Natural
import TopicBus.Decimal.Shortest

/-!
# How a double is written

The digits of a double are those of its shortest decimal; where the point stands, when an
exponent is used and how the doubles that are no numbers are written is a matter of the format,
which a `Layout` records.
-/

namespace TopicBus.Decimal

/-- The decisions of a format about doubles. -/
structure Layout where
  /-- Which of two shortest decimals that are equally near is written. -/
  tie : Tie
  /-- The least power of ten of the first digit that is written without an exponent. -/
  leastPlain : Int
  /-- The greatest power of ten of the first digit that is written without an exponent. -/
  greatestPlain : Int
  /-- Whether a positive exponent carries its sign. -/
  signedExponent : Bool
  /-- What is written for the double that is no number. -/
  nan : String
  /-- What is written for positive infinity and for negative infinity. -/
  infinite : String × String

namespace Layout

/-- The digits with a point, and at least one digit on either side of it. -/
def plain (significand : Nat) (exponent : Int) : List Char :=
  let cs := digits significand
  if 0 ≤ exponent then cs ++ List.replicate exponent.toNat '0' ++ ['.', '0']
  else
    let places := (-exponent).toNat
    if places < cs.length then cs.take (cs.length - places) ++ '.' :: cs.drop (cs.length - places)
    else '0' :: '.' :: List.replicate (places - cs.length) '0' ++ cs

/-- The first digit, a point if more follow, the other digits and the exponent. -/
def exponential (signed : Bool) (significand : Nat) (exponent : Int) : List Char :=
  let cs := digits significand
  let power := exponent + (cs.length : Int) - 1
  let fraction := if cs.length ≤ 1 then [] else '.' :: cs.drop 1
  let sign := if power < 0 then ['-'] else if signed then ['+'] else []
  cs.take 1 ++ fraction ++ 'e' :: sign ++ digits power.natAbs

/-- The digits of a size in the layout. -/
def size (layout : Layout) (x : Magnitude) : List Char :=
  if x.significand = 0 then ['0', '.', '0']
  else
    let numeral := Shortest.numeral layout.tie x
    let power := numeral.exponent + (digits numeral.significand).length - 1
    if layout.leastPlain ≤ power ∧ power ≤ layout.greatestPlain then
      plain numeral.significand numeral.exponent
    else exponential layout.signedExponent numeral.significand numeral.exponent

/-- The text of a double in the layout. -/
def write (layout : Layout) (x : Binary64) : String :=
  match x.meaning with
  | .nan => layout.nan
  | .infinite negative => if negative then layout.infinite.2 else layout.infinite.1
  | .finite negative x =>
      String.ofList (if negative then '-' :: layout.size x else layout.size x)

end Layout

end TopicBus.Decimal
