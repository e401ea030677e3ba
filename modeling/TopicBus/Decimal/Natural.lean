/-!
# Decimal numerals of whole numbers

Writing a number with its fewest digits, and reading a non-empty run of ASCII digits back.
-/

namespace TopicBus.Decimal

def digit (n : Nat) : Char :=
  Char.ofNat ('0'.toNat + n)

/-- Whether a character is one of the ten ASCII digits. -/
def isDigit (c : Char) : Bool :=
  '0' ≤ c && c ≤ '9'

/-- The number that a digit stands for. -/
def digitValue (c : Char) : Nat :=
  c.toNat - '0'.toNat

/-- The digits of a number, the most significant first. -/
def digits (n : Nat) : List Char :=
  if n < 10 then [digit n] else digits (n / 10) ++ [digit (n % 10)]
termination_by n

def natural (n : Nat) : String :=
  String.ofList (digits n)

/-- The numeral of a number with its sign. -/
def integer : Int → String
  | .ofNat n => natural n
  | .negSucc n => "-" ++ natural (n + 1)

/-- The number that a run of digits stands for. -/
def valueOf (cs : List Char) : Nat :=
  cs.foldl (fun value c => 10 * value + digitValue c) 0

/-- The number that a text stands for, if it is a non-empty run of digits. -/
def value? (cs : List Char) : Option Nat :=
  if !cs.isEmpty && cs.all isDigit then some (valueOf cs) else none

/-- Reads a run of digits with an optional plus sign whose number is below the limit. -/
def readBelow (limit : Nat) (cs : List Char) : Option Nat :=
  let run :=
    match cs with
    | '+' :: rest => rest
    | _ => cs
  (value? run).filter (· < limit)

end TopicBus.Decimal
