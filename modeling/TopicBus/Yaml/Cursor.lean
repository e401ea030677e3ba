import TopicBus.Yaml.Flaw

/-!
# A place in a YAML text

A cursor holds the characters that are left and how far it has come, in octets, lines and
columns. The end of the text counts as a break and as a blank wherever the two are told from
other characters.
-/

namespace TopicBus.Yaml

/-- Whether a document may hold a character. -/
def isAllowed (c : Char) : Bool :=
  let n := c.toNat
  n == 0x09 || n == 0x0A || n == 0x0D || (0x20 ≤ n && n ≤ 0x7E) || n == 0x85 ||
    (0xA0 ≤ n && n ≤ 0xD7FF) || (0xE000 ≤ n && n ≤ 0xFFFD) || 0x10000 ≤ n

/-- Whether a character ends a line. -/
def isBreak (c : Char) : Bool :=
  c == '\n' || c == '\r' || c.toNat == 0x85 || c.toNat == 0x2028 || c.toNat == 0x2029

/-- Space and tab. -/
def isBlank (c : Char) : Bool :=
  c == ' ' || c == '\t'

/-- The characters of names. -/
def isWord (c : Char) : Bool :=
  ('0' ≤ c && c ≤ '9') || ('A' ≤ c && c ≤ 'Z') || ('a' ≤ c && c ≤ 'z') || c == '_' || c == '-'

def endsLine : Option Char → Bool
  | none => true
  | some c => isBreak c

def endsWord : Option Char → Bool
  | none => true
  | some c => isBlank c || isBreak c

/-- The number of octets that characters take in UTF-8. -/
def octets (cs : List Char) : Nat :=
  cs.foldl (fun count c => count + c.utf8Size) 0

/-- A place in a text, with its line and column counted from zero. -/
structure Cursor where
  rest : List Char
  /-- The number of octets before it. -/
  index : Nat
  line : Nat
  column : Nat
  deriving DecidableEq, Repr

namespace Cursor

def start (cs : List Char) : Cursor := ⟨cs, 0, 0, 0⟩

def here (cursor : Cursor) : Option Char := cursor.rest.head?

def ahead (cursor : Cursor) (n : Nat) : Option Char := cursor.rest[n]?

def sees (cursor : Cursor) (c : Char) : Bool := cursor.here == some c

def skip (cursor : Cursor) : Cursor :=
  ⟨cursor.rest.drop 1, cursor.index + octets (cursor.rest.take 1), cursor.line, cursor.column + 1⟩

/-- Goes over a number of characters of a line. -/
def skipMany (cursor : Cursor) (n : Nat) : Cursor :=
  ⟨cursor.rest.drop n, cursor.index + octets (cursor.rest.take n), cursor.line, cursor.column + n⟩

/-- Goes over the characters from here on for which the test holds. -/
def takeWhile (test : Char → Bool) (cursor : Cursor) : List Char × Cursor :=
  let taken := cursor.rest.takeWhile test
  (taken, cursor.skipMany taken.length)

/-- Goes over the characters from here on for which the test holds, and drops them. -/
def dropWhile (test : Char → Bool) (cursor : Cursor) : Cursor :=
  (cursor.takeWhile test).2

/-- Goes over a break, if one stands here. Breaks of the common kinds are read as a line feed. -/
def takeBreak (cursor : Cursor) : List Char × Cursor :=
  match cursor.rest with
  | '\r' :: '\n' :: rest => (['\n'], ⟨rest, cursor.index + 2, cursor.line + 1, 0⟩)
  | c :: rest =>
      if isBreak c then
        let text := if c.toNat == 0x2028 || c.toNat == 0x2029 then c else '\n'
        ([text], ⟨rest, cursor.index + c.utf8Size, cursor.line + 1, 0⟩)
      else ([], cursor)
  | [] => ([], cursor)

/-- Whether three of the given character stand here alone at the start of a line. -/
def marks (cursor : Cursor) (c : Char) : Bool :=
  cursor.column == 0 && cursor.rest.take 3 == [c, c, c] && endsWord (cursor.ahead 3)

/-- Whether a document starts or ends here with a mark. -/
def atMark (cursor : Cursor) : Bool :=
  cursor.marks '-' || cursor.marks '.'

/-- Goes over blanks and a comment after them. -/
def skipComment (cursor : Cursor) : Cursor :=
  let cursor := cursor.dropWhile isBlank
  if cursor.sees '#' then cursor.dropWhile fun c => !isBreak c else cursor

end Cursor

end TopicBus.Yaml
