import TopicBus.Json.Scan

/-!
# The plain parts of a payload

A payload is a plain value or a record of plain values. Each kind of plain value has a type, a
written form, which is compact JSON, and a reader, which takes any JSON text of the right shape.
-/

namespace TopicBus

open Text (Bytes)
open Decimal (Binary64)

/-- The kinds of plain values. -/
inductive Leaf
  | text
  | word32
  | word64
  | optionalInteger
  | real
  | unit
  | texts
  /-- Numbers at pairs of octets; the pairs are in increasing order and each stands once. -/
  | pairs
  deriving DecidableEq, Repr

/-- The numbers at pairs of octets. -/
abbrev PairTable := List ((UInt8 × UInt8) × UInt32)

namespace Leaf

/-- The values of a kind. -/
abbrev Val : Leaf → Type
  | .text => String
  | .word32 => UInt32
  | .word64 => UInt64
  | .optionalInteger => Option Int64
  | .real => Binary64
  | .unit => Unit
  | .texts => List String
  | .pairs => PairTable

def empty : (leaf : Leaf) → leaf.Val
  | .text => ""
  | .word32 => 0
  | .word64 => 0
  | .optionalInteger => none
  | .real => Binary64.zero
  | .unit => ()
  | .texts => []
  | .pairs => []

/-! ## Writing -/

/-- The octets of ASCII characters. -/
def ascii (cs : List Char) : Bytes :=
  cs.map Scan.octet

/-- A text in quotes. -/
def writeText (s : String) : Bytes :=
  Scan.octet '"' :: s.toList.flatMap (fun c => (Json.escapeChar c).flatMap Text.Utf8.encodeChar) ++
    [Scan.octet '"']

def writeNatural (n : Nat) : Bytes :=
  ascii (Decimal.digits n)

def writeInteger : Int → Bytes
  | .ofNat n => writeNatural n
  | .negSucc n => Scan.octet '-' :: writeNatural (n + 1)

/-- Values with commas between them. -/
def separated : List Bytes → Bytes
  | [] => []
  | [bytes] => bytes
  | bytes :: rest => bytes ++ Scan.octet ',' :: separated rest

/-- The written form of a value. A table with entries has none, because its keys are no texts. -/
def write : (leaf : Leaf) → leaf.Val → Except Flaw Bytes
  | .text, s => .ok (writeText s)
  | .word32, n => .ok (writeNatural n.toNat)
  | .word64, n => .ok (writeNatural n.toNat)
  | .optionalInteger, none => .ok (Scan.letters "null")
  | .optionalInteger, some n => .ok (writeInteger n.toInt)
  | .real, x => .ok (ascii (Number.write (.real x)).toList)
  | .unit, () => .ok (Scan.letters "null")
  | .texts, items => .ok (Scan.octet '[' :: separated (items.map writeText) ++ [Scan.octet ']'])
  | .pairs, [] => .ok [Scan.octet '\x7b', Scan.octet '\x7d']
  | .pairs, _ :: _ => .error .malformed

/-! ## Reading -/

/-- What is wrong with a value of another kind than the reader wants. A value that is no JSON to
begin with is malformed. -/
def mismatch (b : UInt8) (rest : Bytes) : Flaw :=
  let after {α : Type} : Except Flaw α → Flaw
    | .ok _ => .mismatched
    | .error flaw => flaw
  if b = Scan.octet 'n' then after (Scan.word (Scan.letters "ull") rest)
  else if b = Scan.octet 't' then after (Scan.word (Scan.letters "rue") rest)
  else if b = Scan.octet 'f' then after (Scan.word (Scan.letters "alse") rest)
  else if Scan.startsNumber b then after (Scan.number (b :: rest))
  else if b = Scan.octet '"' then after (Scan.string rest)
  else if b = Scan.octet '[' ∨ b = Scan.octet '\x7b' then .mismatched
  else .malformed

def readText : Reader String := fun bytes =>
  match Scan.skipSpace bytes with
  | [] => .error .truncated
  | b :: rest => if b = Scan.octet '"' then Scan.string rest else .error (mismatch b rest)

/-- Reads a number that has a place in the wanted type. -/
def readNumber {α : Type} (fit : Number → Option α) : Reader α := fun bytes =>
  match Scan.skipSpace bytes with
  | [] => .error .truncated
  | b :: rest =>
      if Scan.startsNumber b then
        match Scan.number (b :: rest) with
        | .error flaw => .error flaw
        | .ok (n, rest) =>
            match fit n with
            | some value => .ok (value, rest)
            | none => .error .mismatched
      else .error (mismatch b rest)

def readNull : Reader Unit := fun bytes =>
  match Scan.skipSpace bytes with
  | [] => .error .truncated
  | b :: rest =>
      if b = Scan.octet 'n' then (Scan.word (Scan.letters "ull") rest).map fun rest => ((), rest)
      else .error (mismatch b rest)

/-- The number as a word of 32 bits. -/
def word32? : Number → Option UInt32
  | .natural n => if n < UInt32.size then some (UInt32.ofNat n) else none
  | _ => none

/-- The number as a word of 64 bits. -/
def word64? : Number → Option UInt64
  | .natural n => if n < UInt64.size then some (UInt64.ofNat n) else none
  | _ => none

/-- The number as a signed word of 64 bits. -/
def integer64? : Number → Option Int64
  | .natural n => if n < Nat.pow 2 63 then some (Int64.ofNat n) else none
  | .negative n => if n ≤ Nat.pow 2 63 then some (Int64.ofInt (-(n : Int))) else none
  | .real _ => none

/-- The number as a double. -/
def real? : Number → Option Binary64
  | .natural n => Binary64.ofNat? false n
  | .negative n => Binary64.ofNat? true n
  | .real x => some x

/-- Reads the texts of a list after its opening bracket. The first argument bounds their number. -/
def readTexts : Nat → List String → Reader (List String)
  | 0, _, _ => .error .truncated
  | bound + 1, seen, bytes =>
      match readText bytes with
      | .error flaw => .error flaw
      | .ok (s, rest) =>
          match Scan.skipSpace rest with
          | [] => .error .truncated
          | b :: rest =>
              if b = Scan.octet ',' then
                match Scan.skipSpace rest with
                | [] => .error .truncated
                | c :: tail =>
                    if c = Scan.octet ']' then .error .malformed
                    else readTexts bound (s :: seen) (c :: tail)
              else if b = Scan.octet ']' then .ok ((s :: seen).reverse, rest)
              else .error .malformed

/-- Reads a value of a kind. A table is read only without entries: a key is a text and never a
pair. -/
def read : (leaf : Leaf) → Reader leaf.Val
  | .text => readText
  | .word32 => readNumber word32?
  | .word64 => readNumber word64?
  | .optionalInteger => fun bytes =>
      match Scan.skipSpace bytes with
      | [] => .error .truncated
      | b :: rest =>
          if b = Scan.octet 'n' then
            (Scan.word (Scan.letters "ull") rest).map fun rest => (none, rest)
          else (readNumber integer64? (b :: rest)).map fun (n, rest) => (some n, rest)
  | .real => readNumber real?
  | .unit => readNull
  | .texts => fun bytes =>
      match Scan.skipSpace bytes with
      | [] => .error .truncated
      | b :: rest =>
          if b = Scan.octet '[' then
            match Scan.skipSpace rest with
            | [] => .error .truncated
            | c :: tail =>
                if c = Scan.octet ']' then .ok ([], tail)
                else readTexts (tail.length + 2) [] (c :: tail)
          else .error (mismatch b rest)
  | .pairs => fun bytes =>
      match Scan.skipSpace bytes with
      | [] => .error .truncated
      | b :: rest =>
          if b = Scan.octet '\x7b' then
            match Scan.skipSpace rest with
            | [] => .error .truncated
            | c :: tail =>
                if c = Scan.octet '\x7d' then .ok ([], tail)
                else if c = Scan.octet '"' then
                  match Scan.string tail with
                  | .ok _ => .error .mismatched
                  | .error flaw => .error flaw
                else .error .malformed
          else .error (mismatch b rest)

end Leaf

end TopicBus
