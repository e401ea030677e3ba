import TopicBus.Decimal.Layout
import TopicBus.Text.Blank
import TopicBus.Text.Visible

/-!
# Texts and values as shown to a reader

A text is shown in double quotes with its invisible characters escaped; values are shown with
the names of their types and fields.
-/

namespace TopicBus.Text

/-- The lower-case hexadecimal digits of a number, the most significant first. -/
def hexDigits (n : Nat) : List Char :=
  if n < 16 then [hexDigit n] else hexDigits (n / 16) ++ [hexDigit (n % 16)]
termination_by n
where
  /-- The lower-case hexadecimal digit of a number below sixteen. -/
  hexDigit (n : Nat) : Char :=
    if n < 10 then Char.ofNat ('0'.toNat + n) else Char.ofNat ('a'.toNat + (n - 10))

/-- A character inside double quotes. -/
def showChar (c : Char) : List Char :=
  if c = '\x00' then ['\\', '0']
  else if c = '\t' then ['\\', 't']
  else if c = '\r' then ['\\', 'r']
  else if c = '\n' then ['\\', 'n']
  else if c = '"' then ['\\', '"']
  else if c = '\\' then ['\\', '\\']
  else if isVisible c then [c]
  else '\\' :: 'u' :: '\x7b' :: hexDigits c.toNat ++ ['\x7d']

/-- A text in double quotes. -/
def quoted (s : String) : String :=
  String.ofList ('"' :: s.toList.flatMap showChar ++ ['"'])

namespace Shown

/-- A record: its name and its fields. -/
def record (name : String) (fields : List (String × String)) : String :=
  name ++ " \x7b " ++ join ", " (fields.map fun field => field.1 ++ ": " ++ field.2) ++ " \x7d"

def optional {α : Type} (shown : α → String) : Option α → String
  | none => "None"
  | some value => "Some(" ++ shown value ++ ")"

def list (items : List String) : String :=
  "[" ++ join ", " items ++ "]"

def mapping (entries : List (String × String)) : String :=
  "\x7b" ++ join ", " (entries.map fun entry => entry.1 ++ ": " ++ entry.2) ++ "\x7d"

/-- Doubles with an exponent from `1e16` up and below `0.0001`, a tie going away from zero. -/
def layout : Decimal.Layout where
  tie := .away
  leastPlain := -4
  greatestPlain := 15
  signedExponent := false
  nan := "NaN"
  infinite := ("inf", "-inf")

end Shown

end TopicBus.Text
