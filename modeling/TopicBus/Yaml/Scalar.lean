import TopicBus.Json.Scan
import TopicBus.Yaml.Cursor

/-!
# Scalars of a YAML text

How the three forms of scalars are read: plain ones, quoted ones and blocks. Every reader takes
a bound on its moves, for which the number of characters left suffices.
-/

namespace TopicBus.Yaml

/-- White space inside a scalar: blanks within a line, or a first break and the breaks after it. -/
structure Gap where
  blanks : List Char
  broken : Bool
  first : List Char
  more : List Char
  deriving DecidableEq, Repr

namespace Gap

def none : Gap := ⟨[], false, [], []⟩

/-- What a gap stands for: a single break folds into a space, and of several the first is
dropped. -/
def text (gap : Gap) : List Char :=
  if !gap.broken then gap.blanks
  else if gap.first == ['\n'] then (if gap.more.isEmpty then [' '] else gap.more)
  else gap.first ++ gap.more

/-- Goes over blanks and breaks. A tab before the given column of a line after the first is
refused. -/
def take (least : Nat) : Nat → Gap → Cursor → Except Flaw (Gap × Cursor)
  | 0, gap, cursor => .ok (gap, cursor)
  | bound + 1, gap, cursor =>
      match cursor.here with
      | .none => .ok (gap, cursor)
      | some c =>
          if isBlank c then
            if !gap.broken then
              take least bound { gap with blanks := gap.blanks ++ [c] } cursor.skip
            else if cursor.column < least && c == '\t' then .error .indentation
            else take least bound gap cursor.skip
          else if isBreak c then
            let (text, cursor) := cursor.takeBreak
            if !gap.broken then take least bound ⟨[], true, text, gap.more⟩ cursor
            else take least bound { gap with more := gap.more ++ text } cursor
          else .ok (gap, cursor)

end Gap

/-! ## Plain scalars -/

/-- The characters that close a plain scalar inside brackets. -/
def isFlowIndicator (c : Char) : Bool :=
  c == ',' || c == '[' || c == ']' || c == '\x7b' || c == '\x7d'

/-- Goes over the characters of a plain scalar up to a blank, or to an indicator that closes it. -/
def plainWord (flow : Bool) : Nat → List Char → Cursor → Except Flaw (List Char × Cursor)
  | 0, seen, cursor => .ok (seen.reverse, cursor)
  | bound + 1, seen, cursor =>
      match cursor.here with
      | none => .ok (seen.reverse, cursor)
      | some c =>
          let next := cursor.ahead 1
          if isBlank c || isBreak c then .ok (seen.reverse, cursor)
          else if flow && c == ':' && next.any fun d => isFlowIndicator d || d == '?' then
            .error .token
          else if c == ':' && endsWord next then .ok (seen.reverse, cursor)
          else if flow && isFlowIndicator c then .ok (seen.reverse, cursor)
          else plainWord flow bound (c :: seen) cursor.skip

/-- Goes over a plain scalar. Outside brackets its lines are indented at least to the given
column. The flag tells whether a break stands between it and what follows. -/
def plainScalar (flow : Bool) (least : Nat) :
    Nat → List Char → Gap → Cursor → Except Flaw (List Char × Bool × Cursor)
  | 0, text, gap, cursor => .ok (text, gap.broken, cursor)
  | bound + 1, text, gap, cursor =>
      if cursor.atMark || cursor.sees '#' then .ok (text, gap.broken, cursor)
      else do
        let (word, cursor) ← plainWord flow (cursor.rest.length + 1) [] cursor
        let text := if word.isEmpty then text else text ++ gap.text ++ word
        let gap := if word.isEmpty then gap else Gap.none
        if cursor.here.any fun c => isBlank c || isBreak c then
          let (gap, cursor) ← gap.take least (cursor.rest.length + 1) cursor
          if !flow && cursor.column < least then return (text, gap.broken, cursor)
          else plainScalar flow least bound text gap cursor
        else return (text, gap.broken, cursor)

/-! ## Quoted scalars -/

/-- What the character after a backslash asks for: a character, or a number of hexadecimal
digits. -/
def escapeOf : Char → Option (Char ⊕ Nat)
  | '0' => some (.inl '\x00')
  | 'a' => some (.inl '\x07')
  | 'b' => some (.inl '\x08')
  | 't' | '\t' => some (.inl '\t')
  | 'n' => some (.inl '\n')
  | 'v' => some (.inl '\x0b')
  | 'f' => some (.inl '\x0c')
  | 'r' => some (.inl '\r')
  | 'e' => some (.inl '\x1b')
  | ' ' => some (.inl ' ')
  | '"' => some (.inl '"')
  | '/' => some (.inl '/')
  | '\\' => some (.inl '\\')
  | 'N' => some (.inl (Char.ofNat 0x85))
  | '_' => some (.inl (Char.ofNat 0xA0))
  | 'L' => some (.inl (Char.ofNat 0x2028))
  | 'P' => some (.inl (Char.ofNat 0x2029))
  | 'x' => some (.inr 2)
  | 'u' => some (.inr 4)
  | 'U' => some (.inr 8)
  | _ => none

/-- The number of a hexadecimal digit. -/
def hexValue? (c : Char) : Option Nat :=
  if c.toNat < 0x80 then Scan.hexValue? (Scan.octet c) else none

/-- The character that hexadecimal digits spell. -/
def scalarOf? (digits : List Char) : Option Char := do
  let values ← digits.mapM hexValue?
  let n := values.foldl (fun n digit => 16 * n + digit) 0
  if n.isValidChar then some (Char.ofNat n) else none

/-- Goes over an escape, from its backslash on. -/
def takeEscape (cursor : Cursor) : Except Flaw (Char × Cursor) :=
  match (cursor.ahead 1).bind escapeOf with
  | none => .error .escape
  | some (.inl c) => .ok (c, cursor.skipMany 2)
  | some (.inr count) =>
      let cursor := cursor.skipMany 2
      let digits := cursor.rest.take count
      if digits.length < count then .error .escape
      else
        match scalarOf? digits with
        | some c => .ok (c, cursor.skipMany count)
        | none => .error .escape

/-- Goes over the characters of a quoted scalar up to its quote, to a blank, or past an escaped
break, which the flag tells. -/
def quotedWord (quote : Char) : Nat → List Char → Cursor → Except Flaw (List Char × Bool × Cursor)
  | 0, seen, cursor => .ok (seen.reverse, false, cursor)
  | bound + 1, seen, cursor =>
      match cursor.here with
      | none => .ok (seen.reverse, false, cursor)
      | some c =>
          if isBlank c || isBreak c then .ok (seen.reverse, false, cursor)
          else if quote == '\'' && c == quote && cursor.ahead 1 == some quote then
            quotedWord quote bound (c :: seen) (cursor.skipMany 2)
          else if c == quote then .ok (seen.reverse, false, cursor)
          else if quote == '"' && c == '\\' then
            -- An escaped break joins two lines without a space.
            if (cursor.ahead 1).any isBreak then
              .ok (seen.reverse, true, cursor.skip.takeBreak.2)
            else
              match takeEscape cursor with
              | .ok (c, cursor) => quotedWord quote bound (c :: seen) cursor
              | .error flaw => .error flaw
          else quotedWord quote bound (c :: seen) cursor.skip

/-- Goes over a quoted scalar after its opening quote. -/
def quotedScalar (quote : Char) : Nat → List Char → Cursor → Except Flaw (List Char × Cursor)
  | 0, _, _ => .error .unclosed
  | bound + 1, text, cursor =>
      if cursor.atMark then .error .token
      else if cursor.rest.isEmpty then .error .unclosed
      else do
        let (word, broken, cursor) ← quotedWord quote (cursor.rest.length + 1) [] cursor
        let text := text ++ word
        if cursor.sees quote then return (text, cursor.skip)
        let (gap, cursor) ← Gap.take 0 (cursor.rest.length + 1) ⟨[], broken, [], []⟩ cursor
        quotedScalar quote bound (text ++ gap.text) cursor

/-! ## Block scalars -/

/-- What happens to the breaks at the end of a block. -/
inductive Chomping
  | clip
  | strip
  | keep
  deriving DecidableEq, Repr

/-- The chomping that a character asks for. -/
def chomping? (c : Char) : Option Chomping :=
  if c == '+' then some .keep else if c == '-' then some .strip else none

/-- The indentation that a digit asks for. -/
def step? (c : Char) : Option Nat :=
  if '0' ≤ c && c ≤ '9' then some (c.toNat - '0'.toNat) else none

/-- Goes over the indicators after `|` or `>`, in either order: chomping and indentation. -/
def blockHeader (cursor : Cursor) : Except Flaw (Chomping × Option Nat × Cursor) := do
  let (chomping, step, cursor) ←
    match cursor.here.bind chomping?, cursor.here.bind step? with
    | some chomping, _ =>
        match (cursor.ahead 1).bind step? with
        | some step => pure (chomping, some step, cursor.skipMany 2)
        | none => pure (chomping, none, cursor.skip)
    | none, some step =>
        match (cursor.ahead 1).bind chomping? with
        | some chomping => pure (chomping, some step, cursor.skipMany 2)
        | none => pure (.clip, some step, cursor.skip)
    | none, none => pure (.clip, none, cursor)
  if step == some 0 then throw .indentation
  let cursor := cursor.skipComment
  if endsLine cursor.here then return (chomping, step, cursor.takeBreak.2) else throw .token

/-- Goes over empty lines and the indentation of the line after them. While the indentation is
not known yet, any number of spaces counts. -/
def blockBreaks (indent : Option Nat) :
    Nat → Nat → List Char → Cursor → Except Flaw (List Char × Nat × Cursor)
  | 0, widest, breaks, cursor => .ok (breaks, widest, cursor)
  | bound + 1, widest, breaks, cursor =>
      let within (column : Nat) : Bool := indent.all fun indent => column < indent
      let spaces := (cursor.rest.takeWhile (· == ' ')).length
      let wanted := indent.elim spaces fun indent => min spaces (indent - cursor.column)
      let cursor := cursor.skipMany wanted
      let widest := max widest cursor.column
      if within cursor.column && cursor.sees '\t' then .error .indentation
      else if cursor.here.any isBreak then
        let (text, cursor) := cursor.takeBreak
        blockBreaks indent bound widest (breaks ++ text) cursor
      else .ok (breaks, widest, cursor)

/-- Goes over the lines of a block. A folded block joins lines that are not indented further. -/
def blockLines (literal : Bool) (indent : Nat) :
    Nat → (text leading trailing : List Char) → Bool → Cursor →
      Except Flaw (List Char × List Char × List Char × Cursor)
  | 0, text, leading, trailing, _, cursor => .ok (text, leading, trailing, cursor)
  | bound + 1, text, leading, trailing, wasBlank, cursor =>
      if cursor.column == indent && !cursor.rest.isEmpty then do
        let nowBlank := cursor.here.any isBlank
        -- A single break between two lines becomes a space, unless one of them is indented further.
        let joint :=
          if !literal && leading.head? == some '\n' && !wasBlank && !nowBlank then
            if trailing.isEmpty then [' '] else []
          else leading
        let (line, cursor) := cursor.takeWhile fun c => !isBreak c
        let (leading, cursor) := cursor.takeBreak
        let (more, _, cursor) ← blockBreaks (some indent) (cursor.rest.length + 1) 0 [] cursor
        blockLines literal indent bound (text ++ joint ++ trailing ++ line) leading more nowBlank
          cursor
      else .ok (text, leading, trailing, cursor)

/-- Goes over a block after its `|` or `>`, inside a collection of the given indentation. -/
def blockScalar (literal : Bool) (outer : Int) (cursor : Cursor) :
    Except Flaw (List Char × Cursor) := do
  let (chomping, step, cursor) ← blockHeader cursor
  let given := step.map fun step => if 0 ≤ outer then outer.toNat + step else step
  let (breaks, widest, cursor) ← blockBreaks given (cursor.rest.length + 1) 0 [] cursor
  let indent := given.getD (max (max widest (outer + 1).toNat) 1)
  let (text, leading, trailing, cursor) ←
    blockLines literal indent (cursor.rest.length + 1) [] [] breaks false cursor
  let tail :=
    match chomping with
    | .strip => []
    | .clip => leading
    | .keep => leading ++ trailing
  return (text ++ tail, cursor)

end TopicBus.Yaml
