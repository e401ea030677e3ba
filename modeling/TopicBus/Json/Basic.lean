import TopicBus.Decimal.Layout

/-!
# Loosely typed values

The values that options are made of, and their compact text. A mapping keeps its keys in
increasing order and each key once; putting a key again replaces its value.
-/

namespace TopicBus

/-- A number: a whole number of at most 64 bits, or a double. -/
inductive Number
  | natural (n : Nat)
  | negative (n : Nat)
  | real (x : Decimal.Binary64)
  deriving DecidableEq, Repr

/-- A loosely typed value. -/
inductive Json
  | null
  | bool (b : Bool)
  | number (n : Number)
  | text (s : String)
  | list (items : List Json)
  | mapping (entries : List (String × Json))
  deriving Repr

/-- The entries of a mapping. -/
abbrev Mapping := List (String × Json)

namespace Mapping

def get? (entries : Mapping) (key : String) : Option Json :=
  entries.lookup key

/-- Puts a value at a key, in the place that the order of keys gives it. -/
def insert (key : String) (value : Json) : Mapping → Mapping
  | [] => [(key, value)]
  | (other, kept) :: rest =>
      if key < other then (key, value) :: (other, kept) :: rest
      else if key = other then (key, value) :: rest
      else (other, kept) :: insert key value rest

/-- The mapping of the given pairs; of two pairs with one key the later counts. -/
def ofPairs (pairs : List (String × Json)) : Mapping :=
  pairs.foldl (fun entries pair => insert pair.1 pair.2 entries) []

end Mapping

namespace Number

/-- Doubles in compact text: exponents from `1e+16` up and below `0.00001`, and nothing but
`null` for the doubles that are no numbers. -/
def layout : Decimal.Layout where
  tie := .toEven
  leastPlain := -5
  greatestPlain := 15
  signedExponent := true
  nan := "null"
  infinite := ("null", "null")

def write : Number → String
  | .natural n => Decimal.natural n
  | .negative n => "-" ++ Decimal.natural n
  | .real x => layout.write x

end Number

namespace Json

/-- The lower-case hexadecimal digit of a number below sixteen. -/
def hexDigit (n : Nat) : Char :=
  if n < 10 then Char.ofNat ('0'.toNat + n) else Char.ofNat ('a'.toNat + (n - 10))

/-- A character inside quotes: quotes, backslashes and control characters are escaped. -/
def escapeChar (c : Char) : List Char :=
  if c = '"' then ['\\', '"']
  else if c = '\\' then ['\\', '\\']
  else if c = '\n' then ['\\', 'n']
  else if c = '\r' then ['\\', 'r']
  else if c = '\t' then ['\\', 't']
  else if c.toNat = 8 then ['\\', 'b']
  else if c.toNat = 12 then ['\\', 'f']
  else if c.toNat < 32 then ['\\', 'u', '0', '0', hexDigit (c.toNat / 16), hexDigit (c.toNat % 16)]
  else [c]

def quote (s : String) : String :=
  String.ofList ('"' :: s.toList.flatMap escapeChar ++ ['"'])

def commas : List String → String
  | [] => ""
  | [s] => s
  | s :: rest => s ++ "," ++ commas rest

mutual

def write : Json → String
  | .null => "null"
  | .bool true => "true"
  | .bool false => "false"
  | .number n => n.write
  | .text s => quote s
  | .list items => "[" ++ commas (writeItems items) ++ "]"
  | .mapping entries => "\x7b" ++ commas (writeEntries entries) ++ "\x7d"

/-- The texts of the values of a list. -/
def writeItems : List Json → List String
  | [] => []
  | item :: rest => write item :: writeItems rest

/-- The texts of the entries of a mapping. -/
def writeEntries : List (String × Json) → List String
  | [] => []
  | (key, value) :: rest => (quote key ++ ":" ++ write value) :: writeEntries rest

end

end Json

end TopicBus
