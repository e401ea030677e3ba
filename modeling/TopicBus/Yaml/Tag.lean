import TopicBus.Yaml.Scalar

/-!
# Tags of YAML nodes

A tag is written in ASCII characters, and an octet of it may stand as a percent sign with two
hexadecimal digits. The octets need not be text: they only have to begin and go on as characters
do in UTF-8. A zero octet ends a tag early.
-/

namespace TopicBus.Yaml

/-- What a tag asks of its node. -/
inductive Tag
  | null
  | bool
  | int
  | float
  /-- A kind of value that belongs to the document. -/
  | own
  /-- A kind of value that belongs to the document, by a name that is no text. -/
  | nameless
  /-- Any other tag, which makes a scalar a text. -/
  | other
  deriving DecidableEq, Repr

namespace Tag

/-- Whether a character may stand in a tag; inside `<` and `>` some more may. -/
def isWritten (verbatim : Bool) (c : Char) : Bool :=
  isWord c || ";/?:@&=+$.%!~*'()".toList.contains c || (verbatim && ",[]".toList.contains c)

/-- How many octets have to go on with the character that an octet begins. -/
def begun? (octet : Nat) : Option Nat :=
  if octet < 0x80 then some 0
  else if octet < 0xC0 then none
  else if octet < 0xE0 then some 1
  else if octet < 0xF0 then some 2
  else if octet < 0xF8 then some 3
  else none

/-- How many octets are due after an octet, given how many were due before it. -/
def due? (before octet : Nat) : Option Nat :=
  match before with
  | 0 => begun? octet
  | due + 1 => if 0x80 ≤ octet ∧ octet < 0xC0 then some due else none

/-- The octets that the characters of a tag spell, of which the given number is due in the place
of characters. -/
def spelled (due : Nat) : List Char → Except Flaw Text.Bytes
  | [] => if due = 0 then .ok [] else .error .tag
  | '%' :: a :: b :: rest =>
      match hexValue? a, hexValue? b with
      | some a, some b =>
          let octet := 16 * a + b
          match due? due octet with
          | some due => do return UInt8.ofNat octet :: (← spelled due rest)
          | none => .error .tag
      | _, _ => .error .tag
  | '%' :: _ => .error .tag
  | c :: rest =>
      if due = 0 then do return Text.Utf8.encodeChar c ++ (← spelled 0 rest) else .error .tag

/-- The octets before the first zero octet. -/
def cut (octets : Text.Bytes) : Text.Bytes :=
  octets.takeWhile (· ≠ 0)

/-- The octets that the tags of the core schema begin with. -/
def coreStem : Text.Bytes := Text.Utf8.encode "tag:yaml.org,2002:"

/-- The tag of the core schema for a kind of value. -/
def core (name : String) : Text.Bytes :=
  coreStem ++ Text.Utf8.encode name

/-- What a tag asks for that spells the given octets. -/
def ofOctets (octets : Text.Bytes) : Tag :=
  if octets = core "null" then .null
  else if octets = core "bool" then .bool
  else if octets = core "int" then .int
  else if octets = core "float" then .float
  else if octets.head? = some 0x21 then
    if (Text.Utf8.decode? octets).isSome then .own else .nameless
  else .other

end Tag

end TopicBus.Yaml
