/-!
# Text as octets

The UTF-8 form of text, and two readings of octets: the strict one accepts exactly well-formed
UTF-8, the lenient one puts U+FFFD in the place of every longest ill-formed piece. Both are
views of one scan, which takes the next character or finds that no character starts here.
-/

namespace TopicBus.Text

/-- Octets in order. -/
abbrev Bytes := List UInt8

/-- Whether a text holds a zero octet, which ends a text wherever its length is not kept. -/
def holdsZero (s : String) : Bool :=
  s.toList.contains '\x00'

namespace Utf8

/-- The octets of one character. -/
def encodeChar (c : Char) : Bytes :=
  let n := c.toNat
  if n < 0x80 then
    [n.toUInt8]
  else if n < 0x800 then
    [(0xC0 + n / 0x40).toUInt8, (0x80 + n % 0x40).toUInt8]
  else if n < 0x10000 then
    [(0xE0 + n / 0x1000).toUInt8, (0x80 + n / 0x40 % 0x40).toUInt8, (0x80 + n % 0x40).toUInt8]
  else
    [(0xF0 + n / 0x40000).toUInt8, (0x80 + n / 0x1000 % 0x40).toUInt8,
      (0x80 + n / 0x40 % 0x40).toUInt8, (0x80 + n % 0x40).toUInt8]

/-- The octets of a text. -/
def encode (s : String) : Bytes :=
  s.toList.flatMap encodeChar

/-- What the first octet of a longer character announces: the bits it carries, the range of the
octet after it, and how many octets of the common range follow that one. -/
structure Lead where
  bits : Nat
  low : Nat
  high : Nat
  more : Nat
  deriving DecidableEq, Repr

/-- The announcement of an octet that starts a character of two to four octets. -/
def lead? (b : Nat) : Option Lead :=
  if 0xC2 ≤ b ∧ b ≤ 0xDF then some ⟨b - 0xC0, 0x80, 0xBF, 0⟩
  else if b = 0xE0 then some ⟨0, 0xA0, 0xBF, 1⟩
  else if b = 0xED then some ⟨0xD, 0x80, 0x9F, 1⟩
  else if 0xE1 ≤ b ∧ b ≤ 0xEF then some ⟨b - 0xE0, 0x80, 0xBF, 1⟩
  else if b = 0xF0 then some ⟨0, 0x90, 0xBF, 2⟩
  else if b = 0xF4 then some ⟨4, 0x80, 0x8F, 2⟩
  else if 0xF1 ≤ b ∧ b ≤ 0xF3 then some ⟨b - 0xF0, 0x80, 0xBF, 2⟩
  else none

/-- Takes the given number of octets of the common range; stops before the first octet outside
it. -/
def continued : Nat → Nat → Bytes → Option Nat × Bytes
  | 0, bits, rest => (some bits, rest)
  | _ + 1, _, [] => (none, [])
  | more + 1, bits, b :: rest =>
      if 0x80 ≤ b.toNat ∧ b.toNat ≤ 0xBF then
        continued more (bits * 0x40 + (b.toNat - 0x80)) rest
      else (none, b :: rest)

/-- The character that starts with the given octet, and the octets after it; with no character,
the octets after the longest piece that could have started one. -/
def next (b : UInt8) (rest : Bytes) : Option Char × Bytes :=
  if b.toNat < 0x80 then (some (Char.ofNat b.toNat), rest)
  else
    match lead? b.toNat, rest with
    | none, _ => (none, rest)
    | some _, [] => (none, [])
    | some lead, c :: tail =>
        if lead.low ≤ c.toNat ∧ c.toNat ≤ lead.high then
          let (scalar, after) := continued lead.more (lead.bits * 0x40 + (c.toNat - 0x80)) tail
          (scalar.map Char.ofNat, after)
        else (none, rest)

private theorem continued_length (more bits : Nat) (rest : Bytes) :
    (continued more bits rest).2.length ≤ rest.length := by
  induction more generalizing bits rest with
  | zero => simp [continued]
  | succ more ih =>
      cases rest with
      | nil => simp [continued]
      | cons b rest =>
          simp only [continued]
          split
          · have := ih (bits * 0x40 + (b.toNat - 0x80)) rest
            simp only [List.length_cons]
            omega
          · simp

/-- Taking a character never lengthens what is left. -/
theorem next_length (b : UInt8) (rest : Bytes) : (next b rest).2.length ≤ rest.length := by
  unfold next
  split
  · simp
  · cases lead? b.toNat with
    | none => simp
    | some lead =>
        cases rest with
        | nil => simp
        | cons c tail =>
            simp only
            split
            · have := continued_length lead.more (lead.bits * 0x40 + (c.toNat - 0x80)) tail
              simp only [List.length_cons]
              omega
            · simp

/-- The characters of the octets in order, with a gap for every piece that is none, put before
those already collected. -/
def scanInto (seen : List (Option Char)) : Bytes → List (Option Char)
  | [] => seen.reverse
  | b :: rest => scanInto ((next b rest).1 :: seen) (next b rest).2
termination_by bytes => bytes.length
decreasing_by
  have := next_length b rest
  simp only [List.length_cons]
  omega

/-- The characters of the octets in order, with a gap for every piece that is none. -/
def scan (bytes : Bytes) : List (Option Char) :=
  scanInto [] bytes

/-- The text that the octets spell, if they are well-formed. -/
def decode? (bytes : Bytes) : Option String :=
  let scanned := scan bytes
  if scanned.all Option.isSome then some (String.ofList (scanned.filterMap id)) else none

/-- The text that the octets spell, with U+FFFD in every gap. -/
def decodeLenient (bytes : Bytes) : String :=
  String.ofList ((scan bytes).map fun c => c.getD (Char.ofNat 0xFFFD))

end Utf8

end TopicBus.Text
