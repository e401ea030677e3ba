/-!
# Blank characters and spelling-insensitive words

The characters with the Unicode property White_Space, trimming by them, and the form in which
words of a settings document are compared: trimmed, with the ASCII letters in lower case. No
other letter is folded, so a look-alike outside ASCII never becomes a known word.
-/

namespace TopicBus.Text

/-- The characters with the Unicode property White_Space. -/
def isBlank (c : Char) : Bool :=
  let n := c.toNat
  (9 ≤ n && n ≤ 13) || n == 0x20 || n == 0x85 || n == 0xA0 || n == 0x1680 ||
    (0x2000 ≤ n && n ≤ 0x200A) || n == 0x2028 || n == 0x2029 || n == 0x202F ||
    n == 0x205F || n == 0x3000

/-- Drops the blanks at both ends of a list of characters. -/
def trimChars (cs : List Char) : List Char :=
  ((cs.dropWhile isBlank).reverse.dropWhile isBlank).reverse

/-- The text without the blanks at its ends. -/
def trim (s : String) : String :=
  String.ofList (trimChars s.toList)

/-- The lower-case form of an ASCII letter; any other character is kept. -/
def lowerAscii (c : Char) : Char :=
  if 'A' ≤ c ∧ c ≤ 'Z' then Char.ofNat (c.toNat + 32) else c

/-- The form in which words are compared: trimmed, with ASCII letters in lower case. -/
def fold (s : String) : String :=
  String.ofList ((trimChars s.toList).map lowerAscii)

/-- Whether nothing is left of a text once it is trimmed. -/
def isBlankText (s : String) : Bool :=
  s.toList.all isBlank

/-- The pieces of a list of characters between the occurrences of a separator; there is always
one. -/
def splitChars (sep : Char) : List Char → List (List Char)
  | [] => [[]]
  | c :: rest =>
      if c = sep then [] :: splitChars sep rest
      else
        match splitChars sep rest with
        | [] => [[c]]
        | piece :: pieces => (c :: piece) :: pieces

/-- The pieces of a text between the occurrences of a separator. -/
def split (sep : Char) (s : String) : List String :=
  (splitChars sep s.toList).map String.ofList

/-- The texts one after another with a separator between them. -/
def join (sep : String) : List String → String
  | [] => ""
  | [s] => s
  | s :: rest => s ++ sep ++ join sep rest

end TopicBus.Text
