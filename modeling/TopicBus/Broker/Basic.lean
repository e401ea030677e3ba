import TopicBus.Message

/-!
# The broker inside the process

The broker is the history of what has been put into it: the records in the order in which they
were appended, the commits in the order in which they were made, and the failures that were set.
The log of a topic and the committed offset of a group are views of that history. Whoever has
put in a record or set a failure notifies those who wait afterwards, and others may look at the
broker in between.
-/

namespace TopicBus

open Text (Bytes)

/-- A record as it is stored. -/
structure Stored where
  key : Option Bytes
  payload : Option Bytes
  headers : List (String × Bytes)
  deriving DecidableEq, Repr

/-- What is stored of an outbound record. -/
def Stored.ofOutbound (outbound : Outbound) : Stored where
  key := outbound.key.map Text.Utf8.encode
  payload := some outbound.payload
  headers := outbound.headers.map fun header => (header.1, Text.Utf8.encode header.2)

/-- What is stored of a raw payload. -/
def Stored.ofRaw (key : Option String) (payload : Bytes) : Stored where
  key := key.map Text.Utf8.encode
  payload := some payload
  headers := []

/-- A record to be found at a position. -/
def Stored.toRecord (stored : Stored) (token : Token) : Record where
  token := token
  key := stored.key
  payload := stored.payload
  headers := stored.headers

/-- The progress that a group has made. -/
structure Commit where
  group : String
  token : Token
  deriving DecidableEq, Repr

structure Broker where
  /-- The records with their topics, the oldest first. -/
  appended : List (String × Stored)
  /-- The commits, the oldest first. -/
  commits : List Commit
  /-- The reasons for which polls are to fail, the oldest first. The last one counts. -/
  failures : List String
  /-- How often those who wait have been notified. -/
  notices : Nat
  /-- How many of those who have put something in have not notified anybody yet. -/
  owed : Nat
  deriving DecidableEq, Repr

namespace Broker

def empty : Broker := ⟨[], [], [], 0, 0⟩

/-- The records of a topic; the offset of a record is its place in this list. -/
def log (broker : Broker) (topic : String) : List Stored :=
  (broker.appended.filter fun entry => entry.1 = topic).map (·.2)

def size (broker : Broker) (topic : String) : Nat :=
  (broker.log topic).length

/-- The next offset that a group will read of a topic, if it has committed. -/
def committed? (broker : Broker) (group topic : String) : Option Int :=
  ((broker.commits.filter fun commit =>
    commit.group = group ∧ commit.token.topic = topic).getLast?).map
      fun commit => commit.token.offset + 1

/-- The reason for which polls fail. -/
def failure? (broker : Broker) : Option String :=
  broker.failures.getLast?

/-- Appends a record to the log of a topic; the notice is still owed. -/
def append (broker : Broker) (topic : String) (record : Stored) : Broker :=
  { broker with appended := broker.appended ++ [(topic, record)], owed := broker.owed + 1 }

/-- Stores that a group has got past a position. What comes of the greatest offset of 64 bits,
which no offset follows, depends on how the program was built: the call crashes, or the count
goes round to the least. Neither is modelled. -/
def commit (broker : Broker) (group : String) (token : Token) : Broker :=
  { broker with commits := broker.commits ++ [⟨group, token⟩] }

/-- Makes every poll from now on fail; the notice is still owed. -/
def failPolls (broker : Broker) (reason : String) : Broker :=
  { broker with failures := broker.failures ++ [reason], owed := broker.owed + 1 }

/-- Somebody who owed it notifies all who wait by now. -/
def notify (broker : Broker) : Broker :=
  { broker with notices := broker.notices + 1, owed := broker.owed - 1 }

/-! ## What each change does to the views -/

@[simp]
theorem log_append (broker : Broker) (topic other : String) (record : Stored) :
    (broker.append topic record).log other =
      if topic = other then broker.log other ++ [record]
      else broker.log other := by
  by_cases same : topic = other
  · simp [log, append, same]
  · simp [log, append, same]

@[simp]
theorem log_commit (broker : Broker) (group topic : String) (token : Token) :
    (broker.commit group token).log topic = broker.log topic :=
  rfl

@[simp]
theorem log_failPolls (broker : Broker) (reason topic : String) :
    (broker.failPolls reason).log topic = broker.log topic :=
  rfl

@[simp]
theorem log_notify (broker : Broker) (topic : String) :
    broker.notify.log topic = broker.log topic :=
  rfl

/-- The offset that an appended record gets is the number of records before it. -/
theorem log_append_size (broker : Broker) (topic : String) (record : Stored) :
    ((broker.append topic record).log topic)[broker.size topic]? = some record := by
  simp [size]

@[simp]
theorem committed?_append
    (broker : Broker) (topic other group : String) (record : Stored) :
    (broker.append topic record).committed? group other =
      broker.committed? group other :=
  rfl

@[simp]
theorem committed?_failPolls (broker : Broker) (reason group topic : String) :
    (broker.failPolls reason).committed? group topic =
      broker.committed? group topic :=
  rfl

@[simp]
theorem committed?_notify (broker : Broker) (group topic : String) :
    broker.notify.committed? group topic = broker.committed? group topic :=
  rfl

/-- A commit moves its own group on its own topic, back or forth, and no other. -/
@[simp]
theorem committed?_commit
    (broker : Broker) (group other topic : String) (token : Token) :
    (broker.commit group token).committed? other topic =
      if group = other ∧ token.topic = topic then some (token.offset + 1)
      else broker.committed? other topic := by
  by_cases same : group = other ∧ token.topic = topic
  · simp [committed?, commit, same]
  · simp [committed?, commit, same]

@[simp]
theorem failure?_append (broker : Broker) (topic : String) (record : Stored) :
    (broker.append topic record).failure? = broker.failure? :=
  rfl

@[simp]
theorem failure?_commit (broker : Broker) (group : String) (token : Token) :
    (broker.commit group token).failure? = broker.failure? :=
  rfl

end Broker

end TopicBus
