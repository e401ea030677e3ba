import TopicBus.Payload.Wire
import TopicBus.Proofs.Wire.Records

/-!
# The compact form of payloads

The writer puts octets together and never builds a JSON value. What it writes for a payload
without doubles is nevertheless the compact text of one, in which a record is a mapping with its
fields in order; only a table with entries stands for no JSON value, and nothing else is
refused.
-/

namespace TopicBus

open Text (Bytes)
open Text.Utf8 (encodeChar)
open Scan (octet)

namespace Text.Utf8

theorem encode_append (s t : String) : encode (s ++ t) = encode s ++ encode t := by
  simp [encode]

theorem encode_ofList (cs : List Char) : encode (String.ofList cs) = cs.flatMap encodeChar := by
  simp [encode]

/-- The ASCII characters are the octets. -/
theorem encodeChar_of_lt {c : Char} (small : c.toNat < 0x80) : encodeChar c = [octet c] := by
  simp [encodeChar, small, octet]

theorem flatMap_encodeChar {cs : List Char} (small : ∀ c ∈ cs, c.toNat < 0x80) :
    cs.flatMap encodeChar = Leaf.ascii cs := by
  induction cs with
  | nil => rfl
  | cons c tail inductionHypothesis =>
      have first := encodeChar_of_lt (small c List.mem_cons_self)
      have others := inductionHypothesis fun c member => small c (List.mem_cons_of_mem _ member)
      rw [List.flatMap_cons, first, others]
      rfl

end Text.Utf8

open Text.Utf8 (encode encode_append encode_ofList flatMap_encodeChar)

namespace Leaf

/-- The JSON value that a plain value stands for. -/
def json? : (leaf : Leaf) → leaf.Val → Option Json
  | .text, s => some (.text s)
  | .word32, n => some (.number (.natural n.toNat))
  | .word64, n => some (.number (.natural n.toNat))
  | .optionalInteger, none => some .null
  | .optionalInteger, some n =>
      match n.toInt with
      | .ofNat size => some (.number (.natural size))
      | .negSucc size => some (.number (.negative (size + 1)))
  | .real, x => some (.number (.real x))
  | .unit, () => some .null
  | .texts, items => some (.list (items.map .text))
  | .pairs, [] => some (.mapping [])
  | .pairs, _ :: _ => none

theorem isSome_json?_optionalInteger (value : Leaf.optionalInteger.Val) :
    (Leaf.optionalInteger.json? value).isSome := by
  cases value with
  | none => rfl
  | some n =>
      simp only [json?]
      cases n.toInt with
      | ofNat size => rfl
      | negSucc size => rfl

/-! ## Texts and numbers -/

theorem writeText_eq_encode (s : String) : writeText s = encode (Json.quote s) := by
  have quote : encodeChar '"' = [octet '"'] := by decide
  rw [Json.quote, encode_ofList]
  simp [writeText, List.flatMap_assoc, quote]

private theorem toNat_digits_lt (n : Nat) : ∀ c ∈ Decimal.digits n, c.toNat < 0x80 := by
  have small : ∀ d < 10, (Decimal.digit d).toNat < 0x80 := by decide
  induction n using Nat.strongRecOn with
  | ind n inductionHypothesis =>
      rw [Decimal.digits]
      by_cases one : n < 10
      · rw [if_pos one]
        intro c member
        cases List.mem_singleton.mp member
        exact small n one
      · rw [if_neg one]
        intro c member
        rcases List.mem_append.mp member with before | last
        · exact inductionHypothesis (n / 10) (by omega) c before
        · cases List.mem_singleton.mp last
          exact small (n % 10) (Nat.mod_lt n (by omega))

theorem writeNatural_eq_encode (n : Nat) : writeNatural n = encode (Decimal.natural n) := by
  rw [Decimal.natural, encode_ofList, flatMap_encodeChar (toNat_digits_lt n)]
  rfl

theorem separated_eq_encode (texts : List String) :
    separated (texts.map encode) = encode (Json.commas texts) := by
  have comma : encode "," = [octet ','] := by decide
  induction texts with
  | nil => rfl
  | cons s others inductionHypothesis =>
      cases others with
      | nil => rfl
      | cons next more =>
          rw [List.map_cons] at inductionHypothesis
          simp [separated, Json.commas, encode_append, comma, inductionHypothesis]

private theorem writeItems_texts (items : List String) :
    Json.writeItems (items.map .text) = items.map Json.quote := by
  induction items with
  | nil => simp [Json.writeItems]
  | cons item others inductionHypothesis =>
      simp [Json.writeItems, Json.write, inductionHypothesis]

/-! ## All kinds -/

/-- A plain value is written as the compact text of its JSON value, and it is refused if it has
none. -/
theorem write_eq {leaf : Leaf} (notReal : leaf ≠ .real) (value : leaf.Val) :
    leaf.write value =
      (leaf.json? value).elim (.error .malformed) fun json => .ok (encode json.write) := by
  have null : Scan.letters "null" = encode "null" := by decide
  cases leaf with
  | text => exact congrArg Except.ok (writeText_eq_encode value)
  | word32 => exact congrArg Except.ok (writeNatural_eq_encode value.toNat)
  | word64 => exact congrArg Except.ok (writeNatural_eq_encode value.toNat)
  | optionalInteger =>
      cases value with
      | none => exact congrArg Except.ok null
      | some n =>
          simp only [write, json?]
          cases sign : n.toInt with
          | ofNat size => exact congrArg Except.ok (writeNatural_eq_encode size)
          | negSucc size =>
              have minus : encode "-" = [octet '-'] := by decide
              simp only [writeInteger, writeNatural_eq_encode, Option.elim_some, Json.write,
                Number.write, encode_append, minus, List.singleton_append]
  | real => exact absurd rfl notReal
  | unit => exact congrArg Except.ok null
  | texts =>
      have opening : encode "[" = [octet '['] := by decide
      have closing : encode "]" = [octet ']'] := by decide
      have quoted : value.map writeText = (value.map Json.quote).map encode := by
        simp [writeText_eq_encode]
      simp only [write, json?, Option.elim_some, Json.write, writeItems_texts, encode_append,
        opening, closing, quoted, separated_eq_encode, List.singleton_append]
  | pairs =>
      cases value with
      | nil =>
          have braces : [octet '\x7b', octet '\x7d'] = encode (Json.mapping []).write := by decide
          exact congrArg Except.ok braces
      | cons entry entries => rfl

end Leaf

namespace Row

/-- The entries of the JSON value that a record stands for. -/
def jsonEntries? : (fields : List Field) → Row fields → Option Mapping
  | [], () => some []
  | field :: fields, (value, row) => do
      let json ← field.leaf.json? value
      let rest ← jsonEntries? fields row
      return (field.name, json) :: rest

private theorem writeEntries_eq {fields : List Field} (exact : ∀ field ∈ fields, field.leaf ≠ .real)
    (row : Row fields) :
    writeEntries fields row =
      (jsonEntries? fields row).elim (.error .malformed) fun entries =>
        .ok ((Json.writeEntries entries).map encode) := by
  have colon : encode ":" = [octet ':'] := by decide
  induction fields with
  | nil =>
      simp [writeEntries, jsonEntries?, Json.writeEntries]
  | cons field fields inductionHypothesis =>
      obtain ⟨value, row⟩ := row
      have first := Leaf.write_eq (exact field List.mem_cons_self) value
      have others := inductionHypothesis
        (fun field member => exact field (List.mem_cons_of_mem _ member)) row
      unfold writeEntries jsonEntries?
      rw [first, others]
      cases field.leaf.json? value with
      | none => rfl
      | some json =>
          cases jsonEntries? fields row with
          | none => rfl
          | some entries =>
              simp [Json.writeEntries, encode_append, Leaf.writeText_eq_encode, colon, bind, pure,
                Except.bind, Except.pure]

/-- A record is written as the compact text of a mapping. -/
theorem write_eq {fields : List Field} (exact : ∀ field ∈ fields, field.leaf ≠ .real)
    (row : Row fields) :
    write fields row =
      (jsonEntries? fields row).elim (.error .malformed) fun entries =>
        .ok (encode (Json.mapping entries).write) := by
  have opening : encode "\x7b" = [octet '\x7b'] := by decide
  have closing : encode "\x7d" = [octet '\x7d'] := by decide
  unfold write
  rw [writeEntries_eq exact row]
  cases jsonEntries? fields row with
  | none => rfl
  | some entries =>
      simp [Json.write, encode_append, opening, closing, Leaf.separated_eq_encode, bind, pure,
        Except.bind, Except.pure]

end Row

namespace Payload

/-- The JSON value that a value of a shape stands for. -/
def Shape.json? : (shape : Shape) → shape.Val → Option Json
  | .plain leaf, value => leaf.json? value
  | .record fields, row => (Row.jsonEntries? fields row).map .mapping

theorem Shape.write_eq {shape : Shape} (exact : shape.IsExact) (value : shape.Val) :
    shape.write value =
      (shape.json? value).elim (.error .malformed) fun json =>
        .ok (Text.Utf8.encode json.write) := by
  cases shape with
  | plain leaf => exact Leaf.write_eq exact value
  | record fields =>
      have written := Row.write_eq exact.1 value
      simp only [Shape.write, Shape.json?, written]
      cases Row.jsonEntries? fields value with
      | none => rfl
      | some entries => rfl

/-- The JSON value that a payload stands for. -/
def json? (payload : Payload) : Option Json :=
  payload.kind.shape.json? payload.val

/-- A payload without doubles is encoded as the compact text of its JSON value, and it is
refused if it has none. -/
theorem encode_eq {payload : Payload} (noOrder : payload.kind ≠ .orderPlaced) :
    payload.encode =
      payload.json?.elim (.error .malformed) fun json => .ok (Text.Utf8.encode json.write) :=
  Shape.write_eq (Kind.isExact_shape noOrder) payload.val

/-- Only numbers at pairs of octets stand for no JSON value, and only if there are any. -/
theorem json?_eq_none_iff (payload : Payload) :
    payload.json? = none ↔ ∃ scores, payload = .scores scores ∧ scores.byPair ≠ [] := by
  cases payload with
  | scores scores =>
      obtain ⟨label, byPair⟩ := scores
      cases byPair with
      | nil | cons entry entries =>
          simp [json?, kind, Kind.shape, Shape.json?, val, Row.jsonEntries?, Leaf.json?]
  | optionalInteger value =>
      have isJson : (Leaf.optionalInteger.json? value).isSome :=
        Leaf.isSome_json?_optionalInteger value
      have some : (Payload.optionalInteger value).json? ≠ none :=
        Option.isSome_iff_ne_none.mp isJson
      simp [some]
  | userCreated value | fileUpload value | ocrResult value | ping value | orderPlaced value
  | word value | text value | unit | texts value =>
      simp [json?, kind, Kind.shape, Shape.json?, val, Row.jsonEntries?, Leaf.json?]

end Payload

end TopicBus
