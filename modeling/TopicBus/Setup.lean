import TopicBus.Files
import TopicBus.Settings.Basic
import TopicBus.Yaml.Value

/-!
# The messaging section

The part of a settings document that names a backend and holds its options, and how it is read.
-/

namespace TopicBus

/-- The brokers that can be used. -/
inductive Backend
  /-- A Kafka cluster. -/
  | kafka
  /-- The broker inside the process. -/
  | memory
  deriving DecidableEq, Repr

namespace Backend

def word : Backend → String
  | .kafka => "kafka"
  | .memory => "memory"

def shown : Backend → String
  | .kafka => "Kafka"
  | .memory => "Memory"

/-- The backend that a word stands for, whatever its padding and case. A refusal quotes the word
as it is. -/
def parse (s : String) : Except Fault Backend :=
  let folded := Text.fold s
  if folded = word .kafka then .ok .kafka
  else if folded = word .memory then .ok .memory
  else .error (.unsupportedDriver s)

end Backend

/-- A backend by its word, and options for it. -/
structure Setup where
  driver : String
  options : Mapping
  deriving Repr

namespace Setup

open Yaml (Document Reading)

def backend (setup : Setup) : Except Fault Backend :=
  Backend.parse setup.driver

/-! ## The document -/

/-- How far the values of options may be nested. -/
def optionDepth : Nat := 125

/-- What has been read of a section so far. -/
structure Draft where
  driver : Option String
  options : Option Mapping
  deriving Repr

/-- Reads a field of the section. Unknown fields are passed over, and a known one stands at most
once. -/
def readField (document : Document) (draft : Draft) (entry : Yaml.Node × Yaml.Node) :
    Reading Draft := do
  match ← document.text entry.1 with
  | "driver" =>
      if draft.driver.isSome then throw .duplicate
      return { draft with driver := some (← document.text entry.2) }
  | "options" =>
      if draft.options.isSome then throw .duplicate
      let options ← document.optional (document.mapping optionDepth) entry.2
      return { draft with options := some (options.getD []) }
  | _ => return draft

/-- Reads the section. A field that is missing is empty. -/
def readSection (document : Document) (node : Yaml.Node) : Reading Setup := do
  let draft ← (← document.fields node).foldlM (readField document) ⟨none, none⟩
  return ⟨draft.driver.getD "", draft.options.getD []⟩

/-- Reads the section of a document, if it is there and set. -/
def readRoot (document : Document) : Reading (Option Setup) := do
  match document.root with
  | none => return none
  | some root =>
      let entries ← document.fields root
      let met ← entries.foldlM (readEntry document) none
      return met.join
where
  /-- Reads an entry of the document. -/
  readEntry (document : Document) (met : Option (Option Setup))
      (entry : Yaml.Node × Yaml.Node) : Reading (Option (Option Setup)) := do
    match ← document.text entry.1 with
    | "messaging" =>
        if met.isSome then throw .duplicate
        return some (← document.optional (readSection document) entry.2)
    | _ => return met

/-- The setup in a document. The section has to be there, and it has to name a driver. -/
def parse (text : String) : Except Fault Setup :=
  match Yaml.read text readRoot with
  | .error flaw => .error (.document flaw.message)
  | .ok none => .error (.settings .messagingUnset)
  | .ok (some setup) =>
      if Text.isBlankText setup.driver then .error (.settings .driverUnset) else .ok setup

/-! ## The file -/

/-- Where the document is found if nothing else is said. -/
def defaultPath : String := "/etc/messaging/config.yaml"

/-- The setup in a file: at the given path, else at the path that the environment names, else at
the default path. -/
def load (tree : FileTree) (named : Option String) (path : Option String) : Except Fault Setup :=
  match tree.readText (path.getD (named.getD defaultPath)) with
  | .error fault => .error (.file fault)
  | .ok text => parse text

end Setup

end TopicBus
