import TopicBus.Yaml.Scanner

/-!
# The structure of a YAML text

Tokens are read by a machine with a stack of states, which yields the events of a document:
scalars, aliases, and the starts and ends of collections. Values that are left out become empty
plain scalars.
-/

namespace TopicBus.Yaml

/-- What is known of a node beside its content. -/
structure Marks where
  anchor : Option String
  tag : Option Tag
  deriving DecidableEq, Repr

def Marks.none : Marks := ⟨.none, .none⟩

/-- The events of a document. -/
inductive Event
  | alias (name : String)
  | scalar (marks : Marks) (text : String) (plain : Bool)
  | sequence (marks : Marks)
  | sequenceEnd
  | mapping (marks : Marks)
  | mappingEnd
  deriving DecidableEq, Repr

namespace Event

/-- What the machine reads next. -/
inductive State
  | node (block indentless : Bool)
  | blockItem
  | indentlessItem
  | blockKey
  | blockValue
  | flowItem (first : Bool)
  | flowItemKey
  | flowItemValue
  | flowItemEnd
  | flowKey (first : Bool)
  | flowValue (empty : Bool)
  deriving DecidableEq, Repr

/-- The handles of tags and what they stand for. -/
abbrev TagHandles := List (String × Text.Bytes)

/-- The handles that stand for something in every document. -/
def commonHandles : TagHandles := [("!", Text.Utf8.encode "!"), ("!!", Tag.coreStem)]

/-- The machine at work. -/
structure Machine where
  tokens : List Token
  /-- What is read next and after it, the next first. -/
  states : List State
  /-- The events so far, the last first. -/
  events : List Event
  deriving DecidableEq, Repr

namespace Machine

def next (machine : Machine) : Token := machine.tokens.headD .streamEnd

def advance (machine : Machine) : Machine :=
  { machine with tokens := machine.tokens.drop 1 }

def emit (event : Event) (machine : Machine) : Machine :=
  { machine with events := event :: machine.events }

/-- Goes on with the given state and the states after it. -/
def goto (states : List State) (machine : Machine) : Machine :=
  { machine with states := states ++ machine.states }

def emitEmpty (machine : Machine) : Machine :=
  machine.emit (.scalar Marks.none "" true)

/-- Reads a node in the given context and then goes on with a state, unless the next token tells
that the node is left out. -/
def nodeUnless (ends : List Token) (block indentless : Bool) (after : State) (machine : Machine) :
    Machine :=
  if ends.contains machine.next then (machine.goto [after]).emitEmpty
  else machine.goto [.node block indentless, after]

/-- The tag that a handle and a suffix stand for. -/
def resolveTag (handles : TagHandles) (handle : String) (suffix : Text.Bytes) : Except Flaw Tag :=
  if handle.isEmpty then .ok (Tag.ofOctets suffix)
  else
    match handles.lookup handle with
    | some stem => .ok (Tag.ofOctets (stem ++ suffix))
    | none => .error .tag

/-- Takes the anchor and the tag of a node, in either order. -/
def takeMarks (handles : TagHandles) (machine : Machine) : Except Flaw (Marks × Machine) :=
  match machine.tokens with
  | .anchor name :: .tag handle suffix :: rest | .tag handle suffix :: .anchor name :: rest => do
      let tag ← resolveTag handles handle suffix
      return (⟨some name, some tag⟩, { machine with tokens := rest })
  | .anchor name :: rest => .ok (⟨some name, none⟩, { machine with tokens := rest })
  | .tag handle suffix :: rest => do
      let tag ← resolveTag handles handle suffix
      return (⟨none, some tag⟩, { machine with tokens := rest })
  | _ => .ok (Marks.none, machine)

/-- Reads the start of a node. -/
def readNode (handles : TagHandles) (block indentless : Bool) (machine : Machine) :
    Except Flaw Machine :=
  match machine.next with
  | .alias name => .ok (machine.advance.emit (.alias name))
  | _ => do
      let (marks, machine) ← machine.takeMarks handles
      match machine.next with
      | .blockEntry =>
          -- The entries of a sequence may stand at the column of the key that they belong to.
          if indentless then return (machine.goto [.indentlessItem]).emit (.sequence marks)
          else left marks machine
      | .scalar text plain => return machine.advance.emit (.scalar marks text plain)
      | .flowSequence => return (machine.advance.goto [.flowItem true]).emit (.sequence marks)
      | .flowMapping => return (machine.advance.goto [.flowKey true]).emit (.mapping marks)
      | .blockSequence =>
          if block then return (machine.advance.goto [.blockItem]).emit (.sequence marks)
          else left marks machine
      | .blockMapping =>
          if block then return (machine.advance.goto [.blockKey]).emit (.mapping marks)
          else left marks machine
      | _ => left marks machine
where
  /-- A node without content, which is an empty scalar if it has marks. -/
  left (marks : Marks) (machine : Machine) : Except Flaw Machine :=
    if marks = Marks.none then .error .misplaced else .ok (machine.emit (.scalar marks "" true))

/-- Reads what may follow in brackets: a comma, unless it is the first entry. -/
def readComma (first : Bool) (machine : Machine) : Except Flaw Machine :=
  if first then .ok machine
  else if machine.next = .flowEntry then .ok machine.advance
  else .error .misplaced

def step (handles : TagHandles) (state : State) (machine : Machine) : Except Flaw Machine :=
  match state with
  | .node block indentless => machine.readNode handles block indentless
  | .blockItem =>
      match machine.next with
      | .blockEntry =>
          .ok (machine.advance.nodeUnless [.blockEntry, .blockEnd] true false .blockItem)
      | .blockEnd => .ok (machine.advance.emit .sequenceEnd)
      | _ => .error .misplaced
  | .indentlessItem =>
      match machine.next with
      | .blockEntry =>
          .ok (machine.advance.nodeUnless [.blockEntry, .key, .value, .blockEnd] true false
            .indentlessItem)
      | _ => .ok (machine.emit .sequenceEnd)
  | .blockKey =>
      match machine.next with
      | .key => .ok (machine.advance.nodeUnless [.key, .value, .blockEnd] true true .blockValue)
      | .blockEnd => .ok (machine.advance.emit .mappingEnd)
      | _ => .error .misplaced
  | .blockValue =>
      match machine.next with
      | .value => .ok (machine.advance.nodeUnless [.key, .value, .blockEnd] true true .blockKey)
      | _ => .ok (machine.goto [.blockKey]).emitEmpty
  | .flowItem first =>
      if machine.next = .flowSequenceEnd then .ok (machine.advance.emit .sequenceEnd)
      else do
        let machine ← machine.readComma first
        match machine.next with
        | .key =>
            return (machine.advance.goto [.flowItemKey]).emit (.mapping Marks.none)
        | .flowSequenceEnd => return machine.advance.emit .sequenceEnd
        | _ => return machine.goto [.node false false, .flowItem false]
  | .flowItemKey =>
      match machine.next with
      | .value | .flowEntry | .flowSequenceEnd =>
          .ok (machine.advance.goto [.flowItemValue]).emitEmpty
      | _ => .ok (machine.goto [.node false false, .flowItemValue])
  | .flowItemValue =>
      match machine.next with
      | .value =>
          .ok (machine.advance.nodeUnless [.flowEntry, .flowSequenceEnd] false false .flowItemEnd)
      | _ => .ok (machine.goto [.flowItemEnd]).emitEmpty
  | .flowItemEnd => .ok ((machine.goto [.flowItem false]).emit .mappingEnd)
  | .flowKey first =>
      if machine.next = .flowMappingEnd then .ok (machine.advance.emit .mappingEnd)
      else do
        let machine ← machine.readComma first
        match machine.next with
        | .key =>
            return machine.advance.nodeUnless [.value, .flowEntry, .flowMappingEnd] false false
              (.flowValue false)
        | .flowMappingEnd => return machine.advance.emit .mappingEnd
        | _ => return machine.goto [.node false false, .flowValue true]
  | .flowValue empty =>
      if empty then .ok (machine.goto [.flowKey false]).emitEmpty
      else
        match machine.next with
        | .value =>
            .ok (machine.advance.nodeUnless [.flowEntry, .flowMappingEnd] false false
              (.flowKey false))
        | _ => .ok (machine.goto [.flowKey false]).emitEmpty

/-- Makes moves until nothing is left to read of a document. -/
def run (handles : TagHandles) : Nat → Machine → Except Flaw Machine
  | 0, _ => .error .misplaced
  | bound + 1, machine =>
      match machine.states with
      | [] => .ok machine
      | state :: states =>
          do run handles bound (← step handles state { machine with states := states })

end Machine

/-- Takes the directives of a document and gives the handles that hold in it. Only version 1.1
and 1.2 are known, and nothing may be said twice. -/
def directives : Bool → TagHandles → List Token → Except Flaw (TagHandles × List Token)
  | seen, handles, .version major minor :: rest =>
      if seen || major ≠ 1 || (minor ≠ 1 && minor ≠ 2) then .error .directive
      else directives true handles rest
  | seen, handles, .tagHandle handle stem :: rest =>
      if (handles.lookup handle).isSome then .error .directive
      else directives seen (handles ++ [(handle, stem)]) rest
  | _, handles, tokens => .ok (handles ++ commonHandles, tokens)

/-- Whether a token ends the content of a document. -/
def endsContent : Token → Bool
  | .version _ _ | .tagHandle _ _ | .documentStart | .documentEnd | .streamEnd => true
  | _ => false

/-- The events of the one document in a text; a text without a document has none. -/
def ofTokens (tokens : List Token) : Except Flaw (List Event) := do
  if tokens.headD .streamEnd = .streamEnd then return []
  let (handles, content) ← directives false [] tokens
  let start : Machine ←
    match content with
    | .documentStart :: rest =>
        if endsContent (rest.headD .streamEnd) then
          pure (Machine.emitEmpty ⟨rest, [], []⟩)
        else pure ⟨rest, [.node true false], []⟩
    | _ =>
        if content.length = tokens.length then pure ⟨tokens, [.node true false], []⟩
        else throw .directive
  let machine ← Machine.run handles (4 * tokens.length + 8) start
  match machine.tokens.dropWhile (· = .documentEnd) with
  | [] | [.streamEnd] => return machine.events.reverse
  | _ => throw .documents

end Event

end TopicBus.Yaml
