import TopicBus.Fault
import TopicBus.Text.Quoted

/-!
# The topic registry

A registry binds payload kinds to topic names, one to one. Registering a pair again is harmless;
binding either side to another counterpart is refused and changes nothing. There is a map for
each direction, and a registration enters the pair into both. What the kinds are does not matter
to a registry, as long as two of them can be told apart; a bus has one over the kinds of
`Payload`.
-/

namespace TopicBus

open Payload (Kind)

/-- The bindings in both directions, each in the order in which they were made. -/
structure Registry (κ : Type := Kind) where
  byKind : List (κ × String)
  byName : List (String × κ)
  deriving DecidableEq, Repr

/-- The handle of a topic that carries payloads of one kind. -/
structure Topic (κ : Type := Kind) where
  kind : κ
  name : String
  deriving DecidableEq, Repr

namespace Registry

/-- A map in which a key has a value, instead of the one that it had before. -/
def withEntry {α β : Type} [DecidableEq α] (key : α) (value : β) : List (α × β) → List (α × β)
  | [] => [(key, value)]
  | entry :: rest =>
      if key = entry.1 then (key, value) :: rest else entry :: withEntry key value rest

variable {κ : Type}

def empty : Registry κ := ⟨[], []⟩

def size (registry : Registry κ) : Nat :=
  registry.byName.length

def isEmpty (registry : Registry κ) : Bool :=
  registry.size == 0

/-- The kind bound to a name. -/
def kindOf? (registry : Registry κ) (name : String) : Option κ :=
  registry.byName.lookup name

section

variable [DecidableEq κ]

/-- The name bound to a kind. -/
def lookup? (registry : Registry κ) (kind : κ) : Option String :=
  registry.byKind.lookup kind

/-- Binds a kind and a name to each other. A kind that is bound already decides first, then a
name. -/
def register (registry : Registry κ) (kind : κ) (name : String) :
    Except (RegistryFault κ) (Topic κ) × Registry κ :=
  match registry.lookup? kind with
  | some bound =>
      if bound = name then (.ok ⟨kind, name⟩, registry)
      else (.error (.typeTaken kind bound), registry)
  | none =>
      match registry.kindOf? name with
      | some holder => (.error (.nameTaken name holder), registry)
      | none =>
          (.ok ⟨kind, name⟩,
            ⟨withEntry kind name registry.byKind, withEntry name kind registry.byName⟩)

/-- The name bound to a kind, or why there is none. -/
def nameOf (registry : Registry κ) (kind : κ) : Except (RegistryFault κ) String :=
  match registry.lookup? kind with
  | some name => .ok name
  | none => .error (.unregistered kind)

/-- The handle of the topic of a kind. -/
def topic (registry : Registry κ) (kind : κ) : Except (RegistryFault κ) (Topic κ) :=
  (registry.nameOf kind).map fun name => ⟨kind, name⟩

/-- An empty payload of a bound kind, where the empty payloads are given. -/
def allocateWith {π : Type} (emptyOf : κ → π) (registry : Registry κ) (kind : κ) :
    Except (RegistryFault κ) π :=
  (registry.topic kind).map fun topic => emptyOf topic.kind

/-- Registers pairs in order; the first refusal stops. -/
def registerAll (registry : Registry κ) :
    List (κ × String) → Except (RegistryFault κ) (Registry κ)
  | [] => .ok registry
  | (kind, name) :: rest =>
      match registry.register kind name with
      | (.ok _, registry) => registerAll registry rest
      | (.error fault, _) => .error fault

def ofPairs (pairs : List (κ × String)) : Except (RegistryFault κ) (Registry κ) :=
  registerAll empty pairs

end

/-- An empty payload of a bound kind. -/
def allocate (registry : Registry) (kind : Kind) : Except RegistryFault Payload :=
  registry.allocateWith Kind.empty kind

/-- The bindings as shown to a reader, each name with the label of its kind. -/
def shown (label : κ → String) (registry : Registry κ) : String :=
  Text.Shown.mapping <|
    registry.byName.map fun binding => (Text.quoted binding.1, Text.quoted (label binding.2))

end Registry

/-- A topic as shown to a reader, with the label of its kind. -/
def Topic.shown {κ : Type} (label : κ → String) (topic : Topic κ) : String :=
  Text.Shown.record "Topic"
    [("name", Text.quoted topic.name), ("payload", Text.quoted (label topic.kind))]

end TopicBus
