import TopicBus.Yaml.Tag
import TopicBus.Yaml.Token

/-!
# Cutting a YAML text into tokens

The scanner goes from left to right. Indentation opens and closes block collections, and a key
of a mapping is known as one only when its colon is met, so the tokens that announce it are put
in before it at that time. Such a key stands on one line and is at most 1024 octets long.
-/

namespace TopicBus.Yaml

/-- A token that may turn out to start a key. -/
structure KeyCandidate where
  /-- Whether the indentation leaves no other reading. -/
  required : Bool
  /-- The number of tokens before it. -/
  number : Nat
  index : Nat
  line : Nat
  column : Nat
  deriving DecidableEq, Repr

/-- The scanner at work. -/
structure Scanner where
  cursor : Cursor
  /-- The tokens so far, the last first. -/
  tokens : List Token
  /-- The indentation of the innermost block collection; -1 outside of all. -/
  indent : Int
  /-- The indentations around it, the innermost first. -/
  outer : List Int
  /-- Whether a key may start here without an indicator. -/
  keyAllowed : Bool
  /-- The candidates outside brackets and inside every open bracket, the innermost first. -/
  candidates : List (Option KeyCandidate)
  deriving DecidableEq, Repr

namespace Scanner

/-- The scanner at the start of a text. -/
def start (cs : List Char) : Scanner where
  cursor := Cursor.start cs
  tokens := []
  indent := -1
  outer := []
  keyAllowed := true
  candidates := [none]

def inFlow (scanner : Scanner) : Bool := 1 < scanner.candidates.length

def push (token : Token) (scanner : Scanner) : Scanner :=
  { scanner with tokens := token :: scanner.tokens }

/-- Puts a token in after the given number of tokens. -/
def insert (number : Nat) (token : Token) (scanner : Scanner) : Scanner :=
  let later := scanner.tokens.length - number
  { scanner with
    tokens := scanner.tokens.take later ++ token :: scanner.tokens.drop later }

/-- Adds a token that stands for a number of characters here. -/
def take (length : Nat) (token : Token) (scanner : Scanner) : Scanner :=
  ({ scanner with cursor := scanner.cursor.skipMany length }).push token

def allowKey (allowed : Bool) (scanner : Scanner) : Scanner :=
  { scanner with keyAllowed := allowed }

/-- Closes the block collections that are indented further than the given column. -/
def closeBlocks (column : Int) (scanner : Scanner) : Scanner :=
  if scanner.inFlow then scanner
  else
    let closed := (scanner.indent :: scanner.outer).takeWhile (column < ·)
    let left := (scanner.indent :: scanner.outer).drop closed.length
    { scanner with
      tokens := List.replicate closed.length Token.blockEnd ++ scanner.tokens
      indent := left.headD (-1)
      outer := left.drop 1 }

/-- Opens a block collection at a column that is further in, before the token of the given
number. -/
def openBlock (column : Nat) (number : Nat) (token : Token) (scanner : Scanner) : Scanner :=
  if scanner.inFlow then scanner
  else if scanner.indent < column then
    { scanner.insert number token with
      indent := column
      outer := scanner.indent :: scanner.outer }
  else scanner

/-- Gives up a candidate; a required one may not be given up. -/
def giveUp (candidate : Option KeyCandidate) : Except Flaw Unit :=
  if candidate.any (·.required) then .error .key else .ok ()

/-- Gives up the innermost candidate. -/
def dropKey (scanner : Scanner) : Except Flaw Scanner := do
  giveUp (scanner.candidates.headD none)
  return { scanner with candidates := none :: scanner.candidates.drop 1 }

/-- Gives up the candidates that are too far back. -/
def dropStaleKeys (scanner : Scanner) : Except Flaw Scanner := do
  let candidates ← scanner.candidates.mapM fun candidate => do
    -- A key stands on one line and takes no more than 1024 characters.
    let stale := candidate.any fun key =>
      key.line < scanner.cursor.line || key.index + 1024 < scanner.cursor.index
    if stale then
      giveUp candidate
      return none
    else return candidate
  return { scanner with candidates := candidates }

/-- Makes the token that starts here a candidate, if a key may start here. -/
def saveKey (scanner : Scanner) : Except Flaw Scanner := do
  if scanner.keyAllowed then
    let scanner ← scanner.dropKey
    let cursor := scanner.cursor
    let key : KeyCandidate :=
      -- At the column of a block mapping nothing can stand but a key.
      { required := !scanner.inFlow && scanner.indent == cursor.column
        number := scanner.tokens.length
        index := cursor.index
        line := cursor.line
        column := cursor.column }
    return { scanner with candidates := some key :: scanner.candidates.drop 1 }
  else return scanner

/-! ## Indicators -/

/-- Goes over the mark that starts or ends a document. -/
def mark (token : Token) (scanner : Scanner) : Except Flaw Scanner := do
  let scanner ← (scanner.closeBlocks (-1)).dropKey
  return (scanner.allowKey false).take 3 token

def openFlow (token : Token) (scanner : Scanner) : Except Flaw Scanner := do
  -- The bracket may start a key itself; inside it there is a line of candidates of its own.
  let scanner ← scanner.saveKey
  return ({ scanner with candidates := none :: scanner.candidates }.allowKey true).take 1 token

def closeFlow (token : Token) (scanner : Scanner) : Except Flaw Scanner := do
  let scanner ← scanner.dropKey
  let candidates := if scanner.inFlow then scanner.candidates.drop 1 else scanner.candidates
  return ({ scanner with candidates := candidates }.allowKey false).take 1 token

def flowEntry (scanner : Scanner) : Except Flaw Scanner := do
  let scanner ← scanner.dropKey
  return (scanner.allowKey true).take 1 .flowEntry

def blockEntry (scanner : Scanner) : Except Flaw Scanner := do
  if !scanner.inFlow && !scanner.keyAllowed then throw .token
  let scanner := scanner.openBlock scanner.cursor.column scanner.tokens.length .blockSequence
  let scanner ← scanner.dropKey
  return (scanner.allowKey true).take 1 .blockEntry

/-- Goes over the question mark of a key. -/
def keyMark (scanner : Scanner) : Except Flaw Scanner := do
  if !scanner.inFlow && !scanner.keyAllowed then throw .token
  let scanner := scanner.openBlock scanner.cursor.column scanner.tokens.length .blockMapping
  let scanner ← scanner.dropKey
  return (scanner.allowKey !scanner.inFlow).take 1 .key

/-- Goes over the colon of a value. A candidate before it turns out to be its key. -/
def valueMark (scanner : Scanner) : Except Flaw Scanner := do
  match scanner.candidates.headD none with
  | some key =>
      -- The mapping and its key begin before tokens that are there already.
      let scanner := (scanner.insert key.number .key).openBlock key.column key.number .blockMapping
      let scanner := { scanner with candidates := none :: scanner.candidates.drop 1 }
      return (scanner.allowKey false).take 1 .value
  | none =>
      if !scanner.inFlow && !scanner.keyAllowed then throw .token
      let scanner := scanner.openBlock scanner.cursor.column scanner.tokens.length .blockMapping
      return (scanner.allowKey !scanner.inFlow).take 1 .value

/-! ## Names and tags -/

/-- Goes over an anchor or an alias. -/
def named (token : String → Token) (scanner : Scanner) : Except Flaw Scanner := do
  let scanner ← scanner.saveKey
  let (name, cursor) := scanner.cursor.skip.takeWhile isWord
  let follows (c : Char) : Bool := "?:,]\x7d%@`".toList.contains c
  if name.isEmpty || !(endsWord cursor.here || cursor.here.any follows) then throw .token
  return ({ scanner with cursor := cursor }.allowKey false).push (token (String.ofList name))

/-- Goes over the characters of a tag, and tells whether there are any. -/
def tagRest (verbatim : Bool) (cursor : Cursor) : Except Flaw (Bool × Text.Bytes × Cursor) := do
  let (cs, cursor) := cursor.takeWhile (Tag.isWritten verbatim)
  return (!cs.isEmpty, ← Tag.spelled 0 cs, cursor)

/-- Goes over the handle of a tag: an exclamation mark, and a name with another mark after it if
there is one. The flag tells whether the second mark stands. -/
def tagHandle (cursor : Cursor) : List Char × Bool × Cursor :=
  let (name, cursor) := cursor.skip.takeWhile isWord
  if cursor.sees '!' then ('!' :: name ++ ['!'], true, cursor.skip)
  else ('!' :: name, false, cursor)

/-- Goes over a tag and gives its handle and the rest. A tag in `<` and `>` has no handle, and
neither has a single exclamation mark. -/
def tagParts (cursor : Cursor) : Except Flaw (String × Text.Bytes × Cursor) := do
  if cursor.ahead 1 == some '<' then
    let (written, suffix, cursor) ← tagRest true (cursor.skipMany 2)
    if !written || !cursor.sees '>' then throw .tag
    return ("", Tag.cut suffix, cursor.skip)
  else
    let (handle, closed, cursor) := tagHandle cursor
    let (written, suffix, cursor) ← tagRest false cursor
    if closed then
      if !written then throw .tag
      return (String.ofList handle, Tag.cut suffix, cursor)
    else
      let suffix := Tag.cut (Text.Utf8.encode (String.ofList (handle.drop 1)) ++ suffix)
      if suffix.isEmpty then return ("", Text.Utf8.encode "!", cursor)
      else return ("!", suffix, cursor)

def tag (scanner : Scanner) : Except Flaw Scanner := do
  let scanner ← scanner.saveKey
  let (handle, suffix, cursor) ← tagParts scanner.cursor
  if !(endsWord cursor.here || (scanner.inFlow && cursor.sees ',')) then throw .tag
  return ({ scanner with cursor := cursor }.allowKey false).push (.tag handle suffix)

/-! ## Directives -/

/-- Goes over a number of at most nine digits. -/
def versionNumber (cursor : Cursor) : Except Flaw (Nat × Cursor) :=
  let (cs, cursor) := cursor.takeWhile Decimal.isDigit
  if cs.isEmpty || 9 < cs.length then .error .directive else .ok (Decimal.valueOf cs, cursor)

def directive (scanner : Scanner) : Except Flaw Scanner := do
  let scanner ← (scanner.closeBlocks (-1)).dropKey
  let (name, cursor) := scanner.cursor.skip.takeWhile isWord
  if name.isEmpty || !endsWord cursor.here then throw .directive
  let cursor := cursor.dropWhile isBlank
  let (token, cursor) ←
    if String.ofList name == "YAML" then
      let (major, cursor) ← versionNumber cursor
      if !cursor.sees '.' then throw .directive
      let (minor, cursor) ← versionNumber cursor.skip
      pure (Token.version major minor, cursor)
    else if String.ofList name == "TAG" then
      if !cursor.sees '!' then throw .directive
      let (handle, closed, cursor) := tagHandle cursor
      if !closed && handle != ['!'] then throw .directive
      if !cursor.here.any isBlank then throw .directive
      let (written, stem, cursor) ← tagRest true (cursor.dropWhile isBlank)
      if !written || !endsWord cursor.here then throw .directive
      pure (Token.tagHandle (String.ofList handle) (Tag.cut stem), cursor)
    else throw .directive
  let cursor := cursor.skipComment
  if !endsLine cursor.here then throw .directive
  return ({ scanner with cursor := cursor.takeBreak.2 }.allowKey false).push token

/-! ## Scalars -/

/-- Goes over a block scalar. -/
def block (literal : Bool) (scanner : Scanner) : Except Flaw Scanner := do
  let scanner ← scanner.dropKey
  let (text, cursor) ← blockScalar literal scanner.indent scanner.cursor.skip
  return ({ scanner with cursor := cursor }.allowKey true).push (.scalar (String.ofList text) false)

def quoted (quote : Char) (scanner : Scanner) : Except Flaw Scanner := do
  let scanner ← scanner.saveKey
  let (text, cursor) ←
    quotedScalar quote (scanner.cursor.rest.length + 1) [] scanner.cursor.skip
  return ({ scanner with cursor := cursor }.allowKey false).push
    (.scalar (String.ofList text) false)

def plain (scanner : Scanner) : Except Flaw Scanner := do
  let scanner ← scanner.saveKey
  let (text, broken, cursor) ←
    plainScalar scanner.inFlow (scanner.indent + 1).toNat (scanner.cursor.rest.length + 1) []
      Gap.none scanner.cursor
  return ({ scanner with cursor := cursor }.allowKey broken).push
    (.scalar (String.ofList text) true)

/-! ## The next token -/

/-- Goes over white space, comments and breaks. A tab is white space where no key may start, and
so is a byte order mark at the start of a line. -/
def skipGap : Nat → Scanner → Scanner
  | 0, scanner => scanner
  | bound + 1, scanner =>
      let cursor := scanner.cursor
      let cursor := if cursor.column == 0 && cursor.sees '\ufeff' then cursor.skip else cursor
      -- No tab may indent a key.
      let tabs := scanner.inFlow || !scanner.keyAllowed
      let cursor := cursor.dropWhile fun c => c == ' ' || (tabs && c == '\t')
      let cursor :=
        if cursor.sees '#' then cursor.dropWhile fun c => !isBreak c else cursor
      if cursor.here.any isBreak then
        skipGap bound
          { scanner with
            cursor := cursor.takeBreak.2
            keyAllowed := scanner.keyAllowed || !scanner.inFlow }
      else { scanner with cursor := cursor }

/-- The characters that no plain scalar starts with, unless a rule of `startsPlain` admits them. -/
def indicators : List Char := "-?:,[]\x7b\x7d#&*!|>'\"%@`".toList

/-- Whether a plain scalar starts with a character, given the one after it. -/
def startsPlain (flow : Bool) (c : Char) (next : Option Char) : Bool :=
  !(isBlank c || isBreak c || indicators.contains c) || (c == '-' && !next.any isBlank) ||
    (!flow && (c == '?' || c == ':') && !endsWord next)

/-- Goes over the token that starts with the given character. -/
def token (c : Char) (scanner : Scanner) : Except Flaw Scanner :=
  let cursor := scanner.cursor
  let flow := scanner.inFlow
  let next := cursor.ahead 1
  if cursor.column == 0 && c == '%' then scanner.directive
  else if cursor.marks '-' then scanner.mark .documentStart
  else if cursor.marks '.' then scanner.mark .documentEnd
  else if c == '[' then scanner.openFlow .flowSequence
  else if c == '\x7b' then scanner.openFlow .flowMapping
  else if c == ']' then scanner.closeFlow .flowSequenceEnd
  else if c == '\x7d' then scanner.closeFlow .flowMappingEnd
  else if c == ',' then scanner.flowEntry
  else if c == '-' && endsWord next then scanner.blockEntry
  else if c == '?' && (flow || endsWord next) then scanner.keyMark
  else if c == ':' && (flow || endsWord next) then scanner.valueMark
  else if c == '*' then scanner.named .alias
  else if c == '&' then scanner.named .anchor
  else if c == '!' then scanner.tag
  else if c == '|' && !flow then scanner.block true
  else if c == '>' && !flow then scanner.block false
  else if c == '\'' || c == '"' then scanner.quoted c
  else if startsPlain flow c next then scanner.plain
  else .error .token

/-- The tokens from here to the end. Every token takes at least one character, so the number of
characters bounds the moves. -/
def run : Nat → Scanner → Except Flaw (List Token)
  | 0, _ => .error .token
  | bound + 1, scanner => do
      let scanner ← (skipGap (scanner.cursor.rest.length + 1) scanner).dropStaleKeys
      let scanner := scanner.closeBlocks scanner.cursor.column
      match scanner.cursor.here with
      | none =>
          let scanner ← (scanner.closeBlocks (-1)).dropKey
          return (Token.streamEnd :: scanner.tokens).reverse
      | some c => run bound (← scanner.token c)

end Scanner

def Token.scan (text : String) : Except Flaw (List Token) :=
  let cs := text.toList
  if cs.all isAllowed then Scanner.run (cs.length + 1) (Scanner.start cs) else .error .character

end TopicBus.Yaml
