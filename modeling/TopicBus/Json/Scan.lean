import TopicBus.Decimal.Scaled
import TopicBus.Json.Basic
import TopicBus.Text.Utf8

/-!
# Reading JSON octets from left to right

The pieces from which readers of JSON are built. The first problem that is met decides what is
wrong with a document: it is cut short, it is no JSON, or it is JSON of another shape than the
reader wants.
-/

namespace TopicBus

open Text (Bytes)

/-- What is wrong with octets that were to be read. -/
inductive Flaw
  /-- The octets end too early. -/
  | truncated
  /-- The octets are no JSON, or a number is out of range. -/
  | malformed
  /-- The octets are JSON of the wrong shape. -/
  | mismatched
  deriving DecidableEq, Repr

/-- Takes a value from the front of the octets. -/
abbrev Reader (α : Type) := Bytes → Except Flaw (α × Bytes)

namespace Scan

def octet (c : Char) : UInt8 := c.toNat.toUInt8

/-- Space, tab, line feed and carriage return. -/
def isSpace (b : UInt8) : Bool :=
  b == 0x20 || b == 0x09 || b == 0x0A || b == 0x0D

/-- The octets from the first that is no space on. -/
def skipSpace (bytes : Bytes) : Bytes :=
  bytes.dropWhile isSpace

def isDigit (b : UInt8) : Bool :=
  octet '0' ≤ b && b ≤ octet '9'

def digitValue (b : UInt8) : Nat :=
  b.toNat - 0x30

/-- Takes the given octets, and no others. -/
def word : Bytes → Bytes → Except Flaw Bytes
  | [], rest => .ok rest
  | _ :: _, [] => .error .truncated
  | expected :: more, b :: rest => if b = expected then word more rest else .error .malformed

/-- The octets of the rest of a keyword. -/
def letters (s : String) : Bytes :=
  s.toList.map octet

/-! ## Strings -/

def hexValue? (b : UInt8) : Option Nat :=
  let n := b.toNat
  if 0x30 ≤ n ∧ n ≤ 0x39 then some (n - 0x30)
  else if 0x61 ≤ n ∧ n ≤ 0x66 then some (n - 0x61 + 10)
  else if 0x41 ≤ n ∧ n ≤ 0x46 then some (n - 0x41 + 10)
  else none

/-- The number of four hexadecimal digits. -/
def hexFour? (a b c d : UInt8) : Option Nat := do
  let a ← hexValue? a
  let b ← hexValue? b
  let c ← hexValue? c
  let d ← hexValue? d
  return ((a * 16 + b) * 16 + c) * 16 + d

/-- Takes the four hexadecimal digits of a code unit. With fewer than four octets left the
string is cut short, whatever they are. -/
def codeUnit : Reader Nat
  | a :: b :: c :: d :: rest =>
      match hexFour? a b c d with
      | some unit => .ok (unit, rest)
      | none => .error .malformed
  | _ => .error .truncated

/-- The octet that a backslash and a letter stand for. -/
def escaped? (b : UInt8) : Option UInt8 :=
  if b = octet '"' ∨ b = octet '\\' ∨ b = octet '/' then some b
  else if b = octet 'b' then some 0x08
  else if b = octet 'f' then some 0x0C
  else if b = octet 'n' then some 0x0A
  else if b = octet 'r' then some 0x0D
  else if b = octet 't' then some 0x09
  else none

/-- Takes the given octet. -/
def exactly (expected : UInt8) : Bytes → Except Flaw Bytes
  | [] => .error .truncated
  | b :: rest => if b = expected then .ok rest else .error .malformed

/-- The octets of the character that the code units after `\u` spell. A leading surrogate needs
a trailing one after it; no other surrogate may stand. -/
def unicodeEscape (bytes : Bytes) : Except Flaw (Bytes × Bytes) := do
  let (unit, rest) ← codeUnit bytes
  if 0xDC00 ≤ unit ∧ unit ≤ 0xDFFF then .error .malformed
  else if 0xD800 ≤ unit ∧ unit ≤ 0xDBFF then
    let rest ← exactly (octet '\\') rest
    let rest ← exactly (octet 'u') rest
    let (trailing, rest) ← codeUnit rest
    if 0xDC00 ≤ trailing ∧ trailing ≤ 0xDFFF then
      let scalar := 0x10000 + (unit - 0xD800) * 0x400 + (trailing - 0xDC00)
      .ok (Text.Utf8.encodeChar (Char.ofNat scalar), rest)
    else .error .malformed
  else .ok (Text.Utf8.encodeChar (Char.ofNat unit), rest)

/-- The octets that an escape spells, after its backslash. -/
def escape : Bytes → Except Flaw (Bytes × Bytes)
  | [] => .error .truncated
  | b :: rest =>
      if b = octet 'u' then unicodeEscape rest
      else
        match escaped? b with
        | some value => .ok ([value], rest)
        | none => .error .malformed

/-- Takes an escape without looking at what it spells. -/
def skipEscape : Bytes → Except Flaw Bytes
  | [] => .error .truncated
  | b :: rest =>
      if b = octet 'u' then (codeUnit rest).map (·.2)
      else if (escaped? b).isSome then .ok rest
      else .error .malformed

/-- The octets of a string up to its closing quote, put after those already collected in
reverse. The first argument bounds the number of octets and escapes. -/
def stringOctets : Nat → Bytes → Reader Bytes
  | 0, _, _ => .error .truncated
  | _ + 1, _, [] => .error .truncated
  | bound + 1, seen, b :: rest =>
      if b = octet '"' then .ok (seen.reverse, rest)
      else if b = octet '\\' then
        match escape rest with
        | .ok (value, rest) => stringOctets bound (value.reverse ++ seen) rest
        | .error flaw => .error flaw
      else if b < 0x20 then .error .malformed
      else stringOctets bound (b :: seen) rest

/-- Takes a string after its opening quote. Its octets have to be well-formed UTF-8. -/
def string : Reader String := fun bytes =>
  match stringOctets (bytes.length + 1) [] bytes with
  | .error flaw => .error flaw
  | .ok (octets, rest) =>
      match Text.Utf8.decode? octets with
      | some s => .ok (s, rest)
      | none => .error .malformed

/-- Takes a string after its opening quote without looking at what it spells. -/
def skipString : Nat → Bytes → Except Flaw Bytes
  | 0, _ => .error .truncated
  | _ + 1, [] => .error .truncated
  | bound + 1, b :: rest =>
      if b = octet '"' then .ok rest
      else if b = octet '\\' then
        match skipEscape rest with
        | .ok rest => skipString bound rest
        | .error flaw => .error flaw
      else if b < 0x20 then .error .malformed
      else skipString bound rest

/-! ## Numbers -/

def maxWord : Nat := UInt64.size - 1

/-- Adds digits to a number as long as it stays within 64 bits; the digits that are left follow. -/
def gather (value : Nat) : Bytes → Nat × Bytes
  | [] => (value, [])
  | d :: rest =>
      let grown := value * 10 + digitValue d
      if grown ≤ maxWord then gather grown rest else (value, d :: rest)

/-- A numeral in its parts: the digits before and after the point, and the exponent with its
sign. -/
structure Numeral where
  negative : Bool
  whole : Bytes
  fraction : Option Bytes
  exponent : Option (Bool × Bytes)
  deriving DecidableEq, Repr

/-- Takes a non-empty run of digits. -/
def digitRun (bytes : Bytes) : Except Flaw (Bytes × Bytes) :=
  match bytes with
  | [] => .error .truncated
  | b :: _ =>
      if isDigit b then .ok (bytes.takeWhile isDigit, bytes.dropWhile isDigit)
      else .error .malformed

/-- Takes the digits before the point: a single zero, or a run that does not start with zero. -/
def wholeDigits : Bytes → Except Flaw (Bytes × Bytes)
  | [] => .error .truncated
  | b :: rest =>
      if b = octet '0' then
        match rest with
        | [] => .ok ([b], [])
        | c :: _ => if isDigit c then .error .malformed else .ok ([b], rest)
      else digitRun (b :: rest)

/-- Takes the point and the digits after it, if a point stands here. -/
def fractionDigits : Bytes → Except Flaw (Option Bytes × Bytes)
  | [] => .ok (none, [])
  | b :: rest =>
      if b = octet '.' then (digitRun rest).map fun (run, rest) => (some run, rest)
      else .ok (none, b :: rest)

/-- Takes the exponent, if one stands here. Its flag tells whether it is negative. -/
def exponentDigits : Bytes → Except Flaw (Option (Bool × Bytes) × Bytes)
  | [] => .ok (none, [])
  | b :: rest =>
      if b = octet 'e' ∨ b = octet 'E' then
        match rest with
        | [] => .error .truncated
        | c :: tail =>
            if c = octet '+' then (digitRun tail).map fun (run, rest) => (some (false, run), rest)
            else if c = octet '-' then
              (digitRun tail).map fun (run, rest) => (some (true, run), rest)
            else (digitRun rest).map fun (run, rest) => (some (false, run), rest)
      else .ok (none, b :: rest)

def numeral (bytes : Bytes) : Except Flaw (Numeral × Bytes) := do
  let (negative, bytes) :=
    match bytes with
    | b :: rest => if b = octet '-' then (true, rest) else (false, bytes)
    | [] => (false, [])
  let (whole, rest) ← wholeDigits bytes
  let (fraction, rest) ← fractionDigits rest
  let (exponent, rest) ← exponentDigits rest
  return (⟨negative, whole, fraction, exponent⟩, rest)

/-- The number of a run of digits, or nothing if it does not fit a signed number of 32 bits. -/
def exponentValue? (run : Bytes) : Option Nat :=
  let value := run.foldl (fun value d => value * 10 + digitValue d) 0
  if value < Nat.pow 2 31 then some value else none

/-- The double of a size with a sign. -/
def signed (negative : Bool) (size : Decimal.Magnitude) : Number :=
  .real (Decimal.Binary64.ofMagnitude negative size)

/-- The number of a numeral. Whole numbers of 64 bits stay whole; anything else, and minus zero,
is a double, which is read by scaling the digits that fit 64 bits. Nothing is read from a
numeral beyond the greatest double. -/
def Numeral.value? (n : Numeral) : Option Number :=
  let (whole, left) := gather 0 n.whole
  if n.fraction.isNone && n.exponent.isNone && left.isEmpty then
    if !n.negative then some (.natural whole)
    else if whole ≠ 0 ∧ whole ≤ Nat.pow 2 63 then some (.negative whole)
    else (Decimal.Magnitude.ofRatio? whole 1).map (signed true)
  else
    let fraction := n.fraction.getD []
    let (digits, unread) := gather whole fraction
    -- Digits that did not fit move the point to the right, those read after it to the left.
    let places : Int := (left.length : Int) - ((fraction.length : Int) - unread.length)
    match n.exponent with
    | none => (Decimal.Scaled.read? digits places).map (signed n.negative)
    | some (below, run) =>
        match exponentValue? run with
        | some power =>
            (Decimal.Scaled.read? digits (if below then places - power else places + power)).map
              (signed n.negative)
        | none =>
            -- With an exponent that does not fit, the number is too great or it is zero.
            if digits ≠ 0 ∧ !below then none
            else some (.real (Decimal.Binary64.ofFields n.negative 0 0))

def number : Reader Number := fun bytes =>
  match numeral bytes with
  | .error flaw => .error flaw
  | .ok (n, rest) =>
      match n.value? with
      | some value => .ok (value, rest)
      | none => .error .malformed

/-- Takes a numeral without looking at its number. Here a numeral that breaks off is no JSON,
also at the end. -/
def skipNumber (bytes : Bytes) : Except Flaw Bytes :=
  match numeral bytes with
  | .ok (_, rest) => .ok rest
  | .error _ => .error .malformed

def startsNumber (b : UInt8) : Bool :=
  b == octet '-' || isDigit b

/-! ## Values that are passed over -/

/-- The list or the mapping in which a value stands. -/
inductive Frame
  | list
  | mapping
  deriving DecidableEq, Repr

/-- What comes next when values are passed over: a value, or what may follow one. -/
inductive Expecting
  | value
  | follower
  deriving DecidableEq, Repr

/-- Takes a key and the colon after it, without looking at what the key spells. -/
def skipKey (bytes : Bytes) : Except Flaw Bytes :=
  match skipSpace bytes with
  | [] => .error .truncated
  | b :: rest =>
      if b = octet '"' then
        match skipString (rest.length + 1) rest with
        | .error flaw => .error flaw
        | .ok rest =>
            match skipSpace rest with
            | [] => .error .truncated
            | c :: rest => if c = octet ':' then .ok rest else .error .malformed
      else .error .malformed

/-- Passes over values inside the given frames, the innermost first, until the outermost value
is complete. The first argument bounds the number of moves. -/
def skipWithin : Nat → Expecting → List Frame → Bytes → Except Flaw Bytes
  | 0, _, _, _ => .error .truncated
  | bound + 1, .value, frames, bytes =>
      match skipSpace bytes with
      | [] => .error .truncated
      | b :: rest =>
          if b = octet 'n' then after bound frames (word (letters "ull") rest)
          else if b = octet 't' then after bound frames (word (letters "rue") rest)
          else if b = octet 'f' then after bound frames (word (letters "alse") rest)
          else if startsNumber b then after bound frames (skipNumber (b :: rest))
          else if b = octet '"' then after bound frames (skipString (rest.length + 1) rest)
          else if b = octet '[' then
            match skipSpace rest with
            | [] => .error .truncated
            | c :: tail =>
                if c = octet ']' then skipWithin bound .follower frames tail
                else skipWithin bound .value (.list :: frames) (c :: tail)
          else if b = octet '\x7b' then
            match skipSpace rest with
            | [] => .error .truncated
            | c :: tail =>
                if c = octet '\x7d' then skipWithin bound .follower frames tail
                else
                  match skipKey (c :: tail) with
                  | .ok rest => skipWithin bound .value (.mapping :: frames) rest
                  | .error flaw => .error flaw
          else .error .malformed
  | _ + 1, .follower, [], bytes => .ok bytes
  | bound + 1, .follower, .list :: frames, bytes =>
      match skipSpace bytes with
      | [] => .error .truncated
      | b :: rest =>
          if b = octet ',' then skipWithin bound .value (.list :: frames) rest
          else if b = octet ']' then skipWithin bound .follower frames rest
          else .error .malformed
  | bound + 1, .follower, .mapping :: frames, bytes =>
      match skipSpace bytes with
      | [] => .error .truncated
      | b :: rest =>
          if b = octet ',' then
            match skipKey rest with
            | .ok rest => skipWithin bound .value (.mapping :: frames) rest
            | .error flaw => .error flaw
          else if b = octet '\x7d' then skipWithin bound .follower frames rest
          else .error .malformed
where
  after (bound : Nat) (frames : List Frame) : Except Flaw Bytes → Except Flaw Bytes
    | .ok rest => skipWithin bound .follower frames rest
    | .error flaw => .error flaw

/-- Passes over one value, nested to any depth. -/
def skipValue (bytes : Bytes) : Except Flaw Bytes :=
  skipWithin (2 * bytes.length + 2) .value [] bytes

/-- Only spaces may follow a document. -/
def finish (bytes : Bytes) : Except Flaw Unit :=
  if (skipSpace bytes).isEmpty then .ok () else .error .malformed

end Scan

end TopicBus
