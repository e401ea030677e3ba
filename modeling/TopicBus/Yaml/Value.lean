import TopicBus.Yaml.Node
import TopicBus.Yaml.Schema

/-!
# Reading values from a YAML document

Readers of nodes for the shapes that a document may be asked for: a text, fields, an optional
value and any value. They count the aliases that they follow, of which there may be a hundred
for every event of the document, and collections may be nested only so far.
-/

namespace TopicBus.Yaml

/-- A reader, which has a number of aliases left to follow. -/
abbrev Reading := StateT Nat (Except Flaw)

namespace Document

/-- The node itself, or the one that it refers to. -/
def follow (document : Document) : Node → Reading Node
  | .alias number => do
      match ← get, document.target? number with
      | 0, _ => throw .repetition
      | _, none => throw .anchor
      | left + 1, some node =>
          set left
          return node
  | node => return node

/-- The text of a scalar, whatever its tag and style. -/
def text (document : Document) (node : Node) : Reading String := do
  match ← document.follow node with
  | .scalar _ text _ => return text
  | _ => throw .shape

/-- The entries of a mapping; an empty plain scalar has none. -/
def fields (document : Document) (node : Node) : Reading (List (Node × Node)) := do
  match ← document.follow node with
  | .mapping _ entries => return entries
  | .scalar _ text true => if text.isEmpty then return [] else throw .shape
  | _ => throw .shape

/-- Whether a node stands for an absent value. -/
def isAbsent : Node → Except Flaw Bool
  | .scalar none text true => .ok (text.isEmpty || Schema.isNull text)
  | .scalar (some tag) text true =>
      if tag = .null then
        if Schema.isNull text then .ok true else .error .shape
      else .ok false
  | _ => .ok false

def optional {α : Type} (document : Document) (read : Node → Reading α) (node : Node) :
    Reading (Option α) := do
  let node ← document.follow node
  if ← isAbsent node then return none
  return some (← read node)

/-- Any value, nested at most to the given depth. -/
def value (document : Document) : Nat → Node → Reading Json
  | depth, node => do
      match depth, ← document.follow node with
      | _, .alias _ => throw .anchor
      | _, .scalar tag text plain => (Schema.scalar tag text plain : Except Flaw Json)
      | 0, _ => throw .depth
      | depth + 1, .sequence tag items =>
          if tag = some .own then throw .shape
          return .list (← items.mapM (value document depth))
      | depth + 1, .mapping tag entries =>
          if tag = some .own then throw .shape
          let pairs ← entries.mapM fun (key, item) => do
            return (← document.text key, ← value document depth item)
          return .mapping (Mapping.ofPairs pairs)
termination_by depth => depth

/-- The values of a mapping by the texts of its keys, nested at most to the given depth; of a
repeated key the last one counts. -/
def mapping (document : Document) (depth : Nat) (node : Node) : Reading Mapping := do
  let entries ← document.fields node
  let pairs ← entries.mapM fun (key, item) => do
    return (← document.text key, ← document.value depth item)
  return Mapping.ofPairs pairs

end Document

/-- What a reader finds in the one document of a text. -/
def read {α : Type} (text : String) (reader : Document → Reading α) : Except Flaw α := do
  let document ← Document.parse text
  return (← (reader document).run (100 * document.size)).1

end TopicBus.Yaml
