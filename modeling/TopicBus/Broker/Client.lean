import TopicBus.Broker.Basic
import TopicBus.Settings.Basic

/-!
# Consuming clients of the broker

A client reads the records of one topic in order. Where it starts is settled when it first looks
at the log: at the committed offset of its group, or else where its policy says.
-/

namespace TopicBus

/-- A client. Its position is the offset of the record that it reads next, once that is settled. -/
structure Client where
  group : Option String
  policy : StartPolicy
  topic : Option String
  position : Option Int
  /-- The number of records read so far. -/
  fetched : Nat
  deriving DecidableEq, Repr

namespace Client

/-- The client of a consumer with the given settings. Without a policy it starts at the earliest
record. -/
def ofSettings (settings : Settings.Consumer) : Client where
  group := settings.group
  policy := settings.startPolicy.getD .earliest
  topic := none
  position := none
  fetched := 0

/-- Subscribes to a topic. Only another topic than the present one unsettles the position. -/
def subscribe (client : Client) (topic : String) : Client :=
  if client.topic = some topic then client
  else { client with topic := some topic, position := none }

def close (client : Client) : Client :=
  { client with topic := none }

/-- The offset that the group of a client has committed. -/
def committed? (client : Client) (broker : Broker) (topic : String) : Option Int :=
  client.group.bind fun group => broker.committed? group topic

/-- Where a client starts to read. -/
def startPosition (client : Client) (broker : Broker) (topic : String) :
    Except TransportFault Int :=
  match client.committed? broker topic, client.policy with
  | some offset, _ => .ok offset
  | none, .earliest => .ok 0
  | none, .latest => .ok (broker.size topic)
  | none, .none => .error (.noCommittedOffset topic)

/-- Where a client reads next. -/
def nextPosition (client : Client) (broker : Broker) (topic : String) : Except TransportFault Int :=
  match client.position with
  | some position => .ok position
  | none => client.startPosition broker topic

/-- The record at a position of a topic. -/
def recordAt? (broker : Broker) (topic : String) (position : Int) : Option Record :=
  if position < 0 then none
  else
    (broker.log topic)[position.toNat]?.map fun stored => stored.toRecord ⟨topic, 0, position⟩

/-- Reads the next record, if there is one. A failure leaves the client as it was. -/
def next (client : Client) (broker : Broker) : Except TransportFault (Option Record) × Client :=
  match broker.failure? with
  | some reason => (.error (.other reason), client)
  | none =>
      match client.topic with
      | none => (.error .notSubscribed, client)
      | some topic =>
          match client.nextPosition broker topic with
          | .error fault => (.error fault, client)
          | .ok position =>
              match recordAt? broker topic position with
              -- The start is settled by a look that finds nothing, too.
              | none => (.ok none, { client with position := some position })
              | some record =>
                  (.ok (some record),
                    { client with position := some (position + 1), fetched := client.fetched + 1 })

/-- Commits a position for the group of a client. -/
def commit (client : Client) (broker : Broker) (token : Token) : Except CommitFault Unit × Broker :=
  match client.group with
  | none => (.error .noGroup, broker)
  | some group => (.ok (), broker.commit group token)

end Client

end TopicBus
