import TopicBus.Yaml.Tag

/-!
# The values of scalars

Plain scalars are resolved by the core schema: null, truth values, whole numbers in four bases
and doubles are recognized, and anything else is a text, a run of digits with a zero in front
among it. Scalars in quotes and blocks are texts. A tag of the core schema asks for its kind of
value.
-/

namespace TopicBus.Yaml.Schema

/-- Whether a text is a word for null. -/
def isNull (text : String) : Bool :=
  ["null", "Null", "NULL", "~"].contains text

/-- The truth value that a text stands for. -/
def bool? (text : String) : Option Bool :=
  if ["true", "True", "TRUE"].contains text then some true
  else if ["false", "False", "FALSE"].contains text then some false
  else none

/-- The number of a non-empty run of digits in a base up to sixteen. -/
def digits? (base : Nat) (cs : List Char) : Option Nat :=
  if cs.isEmpty then none
  else do
    let values ← cs.mapM hexValue?
    if values.all (· < base) then some (values.foldl (fun n digit => base * n + digit) 0) else none

/-- Whether a text is a run of digits that begins with an idle zero, after its sign. -/
def hasIdleZero (cs : List Char) : Bool :=
  let run :=
    match cs with
    | '-' :: rest | '+' :: rest => rest
    | _ => cs
  1 < run.length && run.head? == some '0' && run.all Decimal.isDigit

/-- The number of a numeral with the mark of its base, or of a decimal one. -/
def natural? (cs : List Char) : Option Nat :=
  match cs with
  | '0' :: 'x' :: rest => digits? 16 rest
  | '0' :: 'o' :: rest => digits? 8 rest
  | '0' :: 'b' :: rest => digits? 2 rest
  | _ => if hasIdleZero cs then none else digits? 10 cs

/-- The whole number that a text stands for. -/
def integer? (cs : List Char) : Option Int :=
  match cs with
  | '+' :: rest => (natural? rest).map Int.ofNat
  | '-' :: rest => (natural? rest).map fun n => -(n : Int)
  | _ => (natural? cs).map Int.ofNat

/-- The value of a whole number: numbers beyond 64 bits are refused, and those beyond 128 bits
are not taken as whole numbers. -/
def number? (n : Int) : Option (Except Flaw Json) :=
  if 0 ≤ n then
    if n.natAbs < Nat.pow 2 64 then some (.ok (.number (.natural n.natAbs)))
    else if n.natAbs < Nat.pow 2 128 then some (.error .number)
    else none
  else if n.natAbs ≤ Nat.pow 2 63 then some (.ok (.number (.negative n.natAbs)))
  else if n.natAbs ≤ Nat.pow 2 127 then some (.error .number)
  else none

/-- The exponent at the end of a numeral; without one it is zero. -/
def exponent? (cs : List Char) : Option Int :=
  match cs with
  | [] => some 0
  | c :: rest =>
      if c == 'e' || c == 'E' then
        match rest with
        | '+' :: run => (Decimal.value? run).map Int.ofNat
        | '-' :: run => (Decimal.value? run).map fun n => -(n : Int)
        | run => (Decimal.value? run).map Int.ofNat
      else none

/-- The double nearest to a decimal numeral without sign, if there is a finite one. -/
def decimal? (negative : Bool) (cs : List Char) : Option Decimal.Binary64 := do
  let whole := cs.takeWhile Decimal.isDigit
  let rest := cs.dropWhile Decimal.isDigit
  let (fraction, rest) :=
    match rest with
    | '.' :: rest => (rest.takeWhile Decimal.isDigit, rest.dropWhile Decimal.isDigit)
    | _ => ([], rest)
  if whole.isEmpty && fraction.isEmpty then none
  else
    let exponent ← exponent? rest
    Decimal.Binary64.ofDecimal? negative (Decimal.valueOf (whole ++ fraction))
      (exponent - fraction.length)

/-- The words for the doubles that are no finite numbers. -/
def isInfinite (cs : List Char) : Bool :=
  [".inf", ".Inf", ".INF"].contains (String.ofList cs)

def real? (cs : List Char) : Option Decimal.Binary64 :=
  match cs with
  | '-' :: rest =>
      if isInfinite rest then some (Decimal.Binary64.infinity true) else decimal? true rest
  | '+' :: rest =>
      if isInfinite rest then some (Decimal.Binary64.infinity false) else decimal? false rest
  | _ =>
      if isInfinite cs then some (Decimal.Binary64.infinity false)
      else if [".nan", ".NaN", ".NAN"].contains (String.ofList cs) then some Decimal.Binary64.nan
      else decimal? false cs

/-- The value of a double. Infinite ones and the one that is no number have none. -/
def realValue (x : Decimal.Binary64) : Json :=
  match x.meaning with
  | .finite _ _ => .number (.real x)
  | _ => .null

def plain (text : String) : Except Flaw Json :=
  let cs := text.toList
  if text.isEmpty || isNull text then .ok .null
  else
    match bool? text, (integer? cs).bind number? with
    | some b, _ => .ok (.bool b)
    | none, some value => value
    | none, none =>
        match (if hasIdleZero cs then none else real? cs) with
        | some x => .ok (realValue x)
        | none => .ok (.text text)

/-- The value of a scalar that has to be of a certain kind. -/
def demand {α : Type} (value : α → Except Flaw Json) : Option α → Except Flaw Json
  | some found => value found
  | none => .error .shape

/-- The value of a scalar. One of a kind that belongs to the document has none. -/
def scalar (tag : Option Tag) (text : String) (isPlain : Bool) : Except Flaw Json :=
  let cs := text.toList
  match tag with
  | none | some .nameless => if isPlain then plain text else .ok (.text text)
  | some .own => .error .shape
  | some .bool => demand (fun b => .ok (.bool b)) (bool? text)
  | some .int => demand id ((integer? cs).bind number?)
  | some .float => demand (fun x => .ok (realValue x)) (real? cs)
  | some .null => if isNull text then .ok .null else .error .shape
  | some .other => .ok (.text text)

end TopicBus.Yaml.Schema
