import TopicBus.Yaml.Event

/-!
# The nodes of a YAML document

Events are put together into a tree. Aliases stay in it as references; what they refer to is
kept beside the tree.
-/

namespace TopicBus.Yaml

/-- A node of a document. An alias refers to an anchored node by number. -/
inductive Node
  | alias (number : Nat)
  | scalar (tag : Option Tag) (text : String) (plain : Bool)
  | sequence (tag : Option Tag) (items : List Node)
  | mapping (tag : Option Tag) (entries : List (Node × Node))
  deriving Repr

/-- An anchored node: the number of its anchor, and the number of events before it. -/
structure Anchored where
  number : Nat
  place : Nat
  node : Node
  deriving Repr

/-- A document: its tree, if it has one, its anchored nodes, and the number of its events. -/
structure Document where
  root : Option Node
  anchored : List Anchored
  size : Nat
  deriving Repr

namespace Document

/-- The node that an alias refers to: of those with its number the last to begin. -/
def target? (document : Document) (number : Nat) : Option Node :=
  let choose (best : Option Anchored) (candidate : Anchored) : Option Anchored :=
    if candidate.number ≠ number then best
    else if best.all fun best => best.place < candidate.place then some candidate
    else best
  (document.anchored.foldl choose none).map (·.node)

end Document

namespace Node

/-- A collection that has begun, with the nodes in it, the last first. -/
structure Frame where
  isMapping : Bool
  tag : Option Tag
  anchor : Option Nat
  place : Nat
  nodes : List Node
  deriving Repr

/-- The tree while it is put together. -/
structure Builder where
  place : Nat
  frames : List Frame
  /-- The anchors met so far and their numbers. -/
  names : List (String × Nat)
  anchored : List Anchored
  root : Option Node
  deriving Repr

namespace Builder

/-- Gives an anchor its number, which is the number of different names met before. -/
def number (anchor : Option String) (builder : Builder) : Option Nat × Builder :=
  match anchor with
  | none => (none, builder)
  | some name =>
      let fresh := builder.names.length
      let names := (name, fresh) :: builder.names.filter (·.1 ≠ name)
      (some fresh, { builder with names := names })

/-- Puts a complete node where it belongs. -/
def add (anchor : Option Nat) (place : Nat) (node : Node) (builder : Builder) : Builder :=
  let builder :=
    match anchor with
    | none => builder
    | some number => { builder with anchored := ⟨number, place, node⟩ :: builder.anchored }
  match builder.frames with
  | [] => { builder with root := some node }
  | frame :: frames =>
      { builder with frames := { frame with nodes := node :: frame.nodes } :: frames }

/-- The nodes of a list two by two. -/
def pairs : List Node → List (Node × Node)
  | key :: value :: rest => (key, value) :: pairs rest
  | _ => []

/-- The node of a collection that is complete. -/
def close (frame : Frame) : Node :=
  let nodes := frame.nodes.reverse
  if frame.isMapping then .mapping frame.tag (pairs nodes) else .sequence frame.tag nodes

def take (builder : Builder) (event : Event) : Except Flaw Builder :=
  let place := builder.place
  let builder := { builder with place := place + 1 }
  let start (isMapping : Bool) (marks : Marks) : Builder :=
    let (number, builder) := builder.number marks.anchor
    { builder with frames := ⟨isMapping, marks.tag, number, place, []⟩ :: builder.frames }
  let finish : Builder :=
    match builder.frames with
    | [] => builder
    | frame :: frames =>
        { builder with frames := frames }.add frame.anchor frame.place (close frame)
  match event with
  | .alias name =>
      match builder.names.lookup name with
      | some number => .ok (builder.add none place (.alias number))
      | none => .error .anchor
  | .scalar marks text plain =>
      let (number, builder) := builder.number marks.anchor
      .ok (builder.add number place (.scalar marks.tag text plain))
  | .sequence marks => .ok (start false marks)
  | .mapping marks => .ok (start true marks)
  | .sequenceEnd | .mappingEnd => .ok finish

end Builder

end Node

def Document.parse (text : String) : Except Flaw Document := do
  let tokens ← Token.scan text
  let events ← Event.ofTokens tokens
  let built ← events.foldlM Node.Builder.take ⟨0, [], [], [], none⟩
  return ⟨built.root, built.anchored, events.length⟩

end TopicBus.Yaml
