import TopicBus.Broker.Basic

/-!
# What can be observed of a bus

Notes are the lines that background work leaves for an operator. Events are everything that
happens to messages and records, with the instance that it happens to.
-/

namespace TopicBus

/-- How serious a note is. -/
inductive Level
  | warn
  | error
  deriving DecidableEq, Repr

/-- The lines for an operator. Durations are in milliseconds. -/
inductive Note
  | unencodable (topic : String)
  | refused (topic : String) (fault : Fault)
  | drainGone (topic : String)
  | reportDropped (topic : String)
  | undelivered (topic : String) (fault : Fault)
  | publisherOverdue (topic : String) (limit : Nat)
  | reportsPending (topic : String) (limit : Nat)
  | flushOverdue (limit : Nat)
  | pollFailed (topic : String) (fault : Fault)
  /-- A record without a payload was skipped. -/
  | emptyRecord (token : Token)
  /-- A record whose payload cannot be decoded was skipped. -/
  | undecodable (token : Token)
  deriving DecidableEq, Repr

namespace Note

def level : Note → Level
  | .unencodable _ | .refused _ _ | .undelivered _ _ | .publisherOverdue _ _
  | .pollFailed _ _ => .error
  | .drainGone _ | .reportDropped _ | .reportsPending _ _ | .flushOverdue _ | .emptyRecord _
  | .undecodable _ => .warn

/-- A position as it stands in a note. -/
def place (token : Token) : String :=
  "topic '" ++ token.topic ++ "' (partition: " ++ Decimal.integer token.partition ++ ", offset: " ++
    Decimal.integer token.offset ++ ")"

def text (label : Payload.Kind → String) : Note → String
  | .unencodable topic => "Dropping message for topic '" ++ topic ++ "': serialization error"
  | .refused topic fault =>
      "Failed to send message to topic '" ++ topic ++ "': " ++ fault.message label
  | .drainGone topic => "Delivery report drain for topic '" ++ topic ++ "' is gone"
  | .reportDropped topic => "Dropping delivery report for topic '" ++ topic ++ "' during shutdown"
  | .undelivered topic fault =>
      "Delivery to topic '" ++ topic ++ "' failed: " ++ fault.message label
  | .publisherOverdue topic limit =>
      "Publisher for topic '" ++ topic ++ "' did not flush within " ++ shownDuration limit
  | .reportsPending topic limit =>
      "Delivery reports for topic '" ++ topic ++ "' still pending after " ++ shownDuration limit ++
        ", abandoning"
  | .flushOverdue limit => "Flush did not finish within " ++ shownDuration limit
  | .pollFailed topic fault =>
      "Error receiving message from topic '" ++ topic ++ "': " ++ fault.message label
  | .emptyRecord token => "Skipping message with no payload from " ++ place token
  | .undecodable token => "Skipping message from " ++ place token ++ ": deserialization error"

end Note

/-- What happens to a message or a record. -/
inductive Happening
  /-- An outbox has taken a message. -/
  | accepted (message : Message)
  /-- The broker has stored a record at an offset. -/
  | appended (topic : String) (offset : Nat) (record : Stored)
  /-- A poll has returned a record. -/
  | fetched (record : Record)
  /-- A line was left for the operator. -/
  | noted (note : Note)
  deriving DecidableEq, Repr

/-- Whose doing something is: the application's, or that of the publisher or consumer with a
number. -/
inductive Author
  | application
  | publisher (number : Nat)
  | consumer (number : Nat)
  deriving DecidableEq, Repr

/-- Something that happens, and whose doing it is. -/
structure Event where
  author : Author
  happening : Happening
  deriving DecidableEq, Repr

/-- What an author does among some events. -/
def happeningsOf (author : Author) (events : List Event) : List Happening :=
  events.filterMap fun event => if event.author = author then some event.happening else none

/-- A record of a topic with the offset that it was given. -/
structure Entry where
  topic : String
  offset : Nat
  record : Stored
  deriving DecidableEq, Repr

/-- The topic and the record of an entry. -/
def Entry.stored (entry : Entry) : String × Stored :=
  (entry.topic, entry.record)

/-- The entry that a happening has stored, if it has. -/
def Happening.entry? : Happening → Option Entry
  | .appended topic offset record => some ⟨topic, offset, record⟩
  | _ => none

/-- The entries that some happenings have stored. -/
def entriesOf (happenings : List Happening) : List Entry :=
  happenings.filterMap Happening.entry?

/-- The note that an event is, if it is one. -/
def Event.note? (event : Event) : Option Note :=
  match event.happening with
  | .noted note => some note
  | _ => none

@[simp]
theorem entriesOf_nil : entriesOf [] = [] :=
  rfl

@[simp]
theorem entriesOf_append (first second : List Happening) :
    entriesOf (first ++ second) = entriesOf first ++ entriesOf second :=
  List.filterMap_append

/-- A note is no entry. -/
@[simp]
theorem entriesOf_notes (notes : List Note) : entriesOf (notes.map .noted) = [] := by
  simp [entriesOf, Happening.entry?, List.filterMap_map, Function.comp_def]

@[simp]
theorem happeningsOf_nil (author : Author) : happeningsOf author [] = [] :=
  rfl

@[simp]
theorem happeningsOf_append (author : Author) (first second : List Event) :
    happeningsOf author (first ++ second) =
      happeningsOf author first ++ happeningsOf author second :=
  List.filterMap_append

theorem happeningsOf_cons_self (author : Author) (happening : Happening) (rest : List Event) :
    happeningsOf author (⟨author, happening⟩ :: rest) = happening :: happeningsOf author rest := by
  simp [happeningsOf]

theorem happeningsOf_cons_of_ne {author other : Author} (different : other ≠ author)
    (happening : Happening) (rest : List Event) :
    happeningsOf author (⟨other, happening⟩ :: rest) = happeningsOf author rest := by
  simp [happeningsOf, different]

/-- An author has done something just if there is an event of it. -/
theorem mem_happeningsOf_iff {author : Author} {happening : Happening} {events : List Event} :
    happening ∈ happeningsOf author events ↔ ⟨author, happening⟩ ∈ events := by
  simp only [happeningsOf, List.mem_filterMap, Option.ite_none_right_eq_some, Option.some.injEq]
  constructor
  · rintro ⟨event, member, rfl, rfl⟩
    exact member
  · intro member
    exact ⟨⟨author, happening⟩, member, rfl, rfl⟩

end TopicBus
