import TopicBus.Decimal.Natural

/-!
# Whole numbers at the start of a property

The client of a remote broker reads a whole number from the start of a value and does not look
at what follows it. Blanks and a sign may stand in front, and `0x` or a zero tells the base. The
number is kept in a word of 64 bits, of which the lower half is taken, both with a sign.
-/

namespace TopicBus.Settings

/-- Whether a character is white space to the client. -/
def isSpace (c : Char) : Bool :=
  c = ' ' || (9 ≤ c.toNat && c.toNat ≤ 13)

/-- The value without the white space in front. -/
def leftTrimmed (value : String) : String :=
  String.ofList (value.toList.dropWhile isSpace)

/-- The number that a digit stands for in a base up to sixteen. -/
def digitIn? (base : Nat) (c : Char) : Option Nat :=
  let lower := c.toNat ||| 0x20
  let value? :=
    if Decimal.isDigit c then some (Decimal.digitValue c)
    else if 'a'.toNat ≤ lower ∧ lower ≤ 'f'.toNat then some (lower - 'a'.toNat + 10)
    else none
  value?.filter (· < base)

/-- The number of the digits at the start of a text, added to the digits before it. -/
def valueIn (base : Nat) (before : Nat) : List Char → Nat
  | [] => before
  | c :: rest =>
      match digitIn? base c with
      | some digit => valueIn base (base * before + digit) rest
      | none => before

/-- The size of the number at the start of a text, if a digit stands there. -/
def leadingSize? (cs : List Char) : Option Nat :=
  match cs with
  | '0' :: x :: c :: rest =>
      if (x = 'x' || x = 'X') && (digitIn? 16 c).isSome then some (valueIn 16 0 (c :: rest))
      else some (valueIn 8 0 (x :: c :: rest))
  | '0' :: rest => some (valueIn 8 0 rest)
  | c :: rest => (digitIn? 10 c).map fun digit => valueIn 10 digit rest
  | [] => none

/-- The nearest number that fits into a word of 64 bits with a sign. -/
def saturated (n : Int) : Int :=
  let bound : Int := Nat.pow 2 63
  max (-bound) (min n (bound - 1))

/-- The lower half of a word of 64 bits, with a sign. -/
def lowerHalf (n : Int) : Int :=
  n.bmod UInt32.size

/-- The number that the client reads from the start of a value. -/
def leadingNumber? (value : String) : Option Int :=
  let size? (negative : Bool) (cs : List Char) : Option Int :=
    (leadingSize? cs).map fun size =>
      lowerHalf (saturated (if negative then -(size : Int) else size))
  match (leftTrimmed value).toList with
  | '-' :: rest => size? true rest
  | '+' :: rest => size? false rest
  | cs => size? false cs

end TopicBus.Settings
