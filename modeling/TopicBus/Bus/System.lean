import TopicBus.Bus.Factory

/-!
# A bus and what can be done to it

A bus holds a registry, a broker, and all publishers, consumers and clients that were ever made,
each known by its number in the order of creation. An action is a call of the application, a
single step of a task in the background, or the passing of time. Actions may follow each other
in any order: a run of a bus is a list of actions, and nothing is hidden between two of them.
-/

namespace TopicBus

/-- A bus. -/
structure System where
  registry : Registry
  broker : Broker
  now : Nat
  /-- The scopes that were told to stop. -/
  cancelled : List String
  publishers : List Publisher
  consumers : List Consumer
  clients : List Client

inductive Task
  | pump (publisher : Nat)
  | drain (publisher : Nat)
  | pollLoop (consumer : Nat)
  | closePublisher (publisher : Nat)
  | closeConsumer (consumer : Nat)
  /-- Somebody who has put something into the broker notifies those who wait. -/
  | notify
  deriving DecidableEq, Repr

/-- What can be done to a bus. Instances are named by their numbers. -/
inductive Action
  | register (kind : Payload.Kind) (name : String)
  | addPublisher (kind : Payload.Kind) (outlet : Outlet) (scope : String)
  | addConsumer (kind : Payload.Kind) (inlet : Inlet) (scope : String)
  | openPublisher (publisher : Nat)
  /-- Sends a message without a pause. -/
  | send (publisher : Nat) (message : Message)
  /-- The first half of a send: a place in the outbox is asked for. -/
  | reserve (publisher : Nat)
  /-- The second half of a send: the message is put into a place that is held. -/
  | fill (publisher : Nat) (message : Message)
  | dropOutbox (publisher : Nat)
  | closePublisher (publisher : Nat)
  | dropPublisher (publisher : Nat)
  | openConsumer (consumer : Nat)
  | receive (consumer : Nat)
  /-- Gives up an inbox, but takes out what it holds. -/
  | closeInbox (consumer : Nat)
  | dropInbox (consumer : Nat)
  | closeConsumer (consumer : Nat)
  | dropConsumer (consumer : Nat)
  /-- Acknowledges the message that a consumer has received after so many others. -/
  | ack (consumer receipt : Nat)
  /-- Commits a position through a consumer. -/
  | commit (consumer : Nat) (token : Token)
  | cancel (scope : String)
  /-- Appends to a topic without any coding. -/
  | append (topic : String) (key : Option String) (payload : Text.Bytes)
  /-- Appends a record as the sink of a publisher does. -/
  | enqueue (outbound : Outbound)
  | failPolls (reason : String)
  | addClient (settings : Settings.Consumer)
  | subscribe (client : Nat) (topic : String)
  | fetch (client : Nat)
  | commitClient (client : Nat) (token : Token)
  | closeClient (client : Nat)
  /-- Changes the script that a consumer reads from. -/
  | revise (consumer : Nat) (revision : Revision)
  /-- Takes the calls that the script of a publisher has seen. -/
  | takePublisherCalls (publisher : Nat)
  /-- Takes the calls that the script of a consumer has seen. -/
  | takeConsumerCalls (consumer : Nat)
  /-- Lets a hanging flush return. -/
  | releaseFlush (publisher : Nat)
  | step (task : Task)
  | pass (milliseconds : Nat)

/-- What is answered to an action. -/
inductive Reply
  /-- There is nothing that the action could be done to. -/
  | absent
  | done
  /-- The call crashes. -/
  | crashed
  | topic (result : Except Fault Topic)
  | capacity (result : Except Fault Nat)
  | outcome (result : Except Fault Unit)
  | sent (sent : Sent)
  /-- A message was received, and so many others before it. -/
  | received (receipt : Nat) (message : Message)
  /-- The inbox is empty. -/
  | empty
  /-- The inbox is empty, and no more will come. -/
  | ended
  | offset (offset : Nat)
  | fetched (result : Except Fault (Option Record))
  | calls (calls : List Call)

namespace System

/-- What comes of an action: the reply, the bus, and what has happened. -/
abbrev Outcome := Reply × System × List Event

/-- A new bus over a registry. -/
def ofRegistry (registry : Registry) : System where
  registry := registry
  broker := .empty
  now := 0
  cancelled := []
  publishers := []
  consumers := []
  clients := []

def absent (system : System) : Outcome :=
  (.absent, system, [])

/-- The bus with another publisher in the place of the one with the number. -/
def setPublisher (system : System) (n : Nat) (publisher : Publisher) : System :=
  { system with publishers := system.publishers.set n publisher }

/-- The bus with another consumer in the place of the one with the number. -/
def setConsumer (system : System) (n : Nat) (consumer : Consumer) : System :=
  { system with consumers := system.consumers.set n consumer }

/-- The bus with another client in the place of the one with the number. -/
def setClient (system : System) (n : Nat) (client : Client) : System :=
  { system with clients := system.clients.set n client }

def isPublisherStopped (system : System) (publisher : Publisher) : Bool :=
  publisher.stopped || system.cancelled.contains publisher.scope

def isConsumerStopped (system : System) (consumer : Consumer) : Bool :=
  consumer.stopped || system.cancelled.contains consumer.scope

/-! ## Registration and creation -/

def register (system : System) (kind : Payload.Kind) (name : String) : Outcome :=
  let (result, registry) := system.registry.register kind name
  (.topic (result.mapError .registry), { system with registry := registry }, [])

def addPublisher (system : System) (kind : Payload.Kind) (outlet : Outlet) (scope : String) :
    Outcome :=
  match Publisher.ofOutlet system.registry kind outlet scope with
  | .error fault => (.topic (.error fault), system, [])
  | .ok publisher =>
      (.topic (.ok publisher.topic),
        { system with publishers := system.publishers ++ [publisher] }, [])

def addConsumer (system : System) (kind : Payload.Kind) (inlet : Inlet) (scope : String) :
    Outcome :=
  match Consumer.ofInlet system.registry kind inlet scope with
  | .error fault => (.topic (.error fault), system, [])
  | .ok consumer =>
      (.topic (.ok consumer.topic), { system with consumers := system.consumers ++ [consumer] }, [])

/-! ## Publishers -/

/-- Opens a publisher that the application still holds. -/
def openPublisher (system : System) (n : Nat) : Outcome :=
  match system.publishers[n]? with
  | none => system.absent
  | some publisher =>
      if publisher.isHeld then
        let (result, publisher) := publisher.openOutbox
        (result.elim .crashed .capacity, system.setPublisher n publisher, [])
      else system.absent

/-- What has happened when a message was sent. -/
def sending (n : Nat) (message : Message) : Sent → List Event
  | .accepted => [⟨.publisher n, .accepted message⟩]
  | .full | .closed => []

/-- Sends a message, of the kind that the publisher is for, if the application has the outbox. -/
def send (system : System) (n : Nat) (message : Message) : Outcome :=
  match system.publishers[n]? with
  | none => system.absent
  | some publisher =>
      if publisher.outbox.hasSender && message.value.kind = publisher.topic.kind then
        let (sent, publisher) := publisher.send message
        (.sent sent, system.setPublisher n publisher, sending n message sent)
      else system.absent

/-- Asks for a place in the outbox, if the application has it. A send that waits asks again
later. -/
def reserve (system : System) (n : Nat) : Outcome :=
  match system.publishers[n]? with
  | none => system.absent
  | some publisher =>
      if publisher.outbox.hasSender then
        match publisher.reserve with
        | (.accepted, after) => (.done, system.setPublisher n after, [])
        | (refused, _) => (.sent refused, system, [])
      else system.absent

/-- Puts a message, of the kind that the publisher is for, into a place that is held for it. -/
def fill (system : System) (n : Nat) (message : Message) : Outcome :=
  match system.publishers[n]? with
  | none => system.absent
  | some publisher =>
      if 0 < publisher.outbox.reserved && message.value.kind = publisher.topic.kind then
        (.sent .accepted, system.setPublisher n (publisher.fill message),
          sending n message .accepted)
      else system.absent

def dropOutbox (system : System) (n : Nat) : Outcome :=
  match system.publishers[n]? with
  | none => system.absent
  | some publisher => (.done, system.setPublisher n publisher.dropOutbox, [])

/-- Begins to close a publisher that the application still holds. Only the first close does
anything; its result is found in the publisher once it has come to an end. -/
def closePublisher (system : System) (n : Nat) : Outcome :=
  match system.publishers[n]? with
  | none => system.absent
  | some publisher =>
      if publisher.isHeld then
        match publisher.closing with
        | .notYet => (.done, system.setPublisher n (publisher.beginClose system.now), [])
        | _ => (.outcome (.ok ()), system, [])
      else system.absent

def dropPublisher (system : System) (n : Nat) : Outcome :=
  match system.publishers[n]? with
  | none => system.absent
  | some publisher => (.done, system.setPublisher n publisher.drop, [])

/-! ## Consumers -/

/-- Opens a consumer that the application still holds. -/
def openConsumer (system : System) (n : Nat) : Outcome :=
  match system.consumers[n]? with
  | none => system.absent
  | some consumer =>
      if consumer.isHeld then
        let (result, consumer) := consumer.openInbox
        (result.elim .crashed .outcome, system.setConsumer n consumer, [])
      else system.absent

/-- Takes a message from an inbox that the application has, or has closed. -/
def receive (system : System) (n : Nat) : Outcome :=
  match system.consumers[n]? with
  | none => system.absent
  | some consumer =>
      if consumer.canReceive then
        match consumer.receive? with
        | some (message, after) =>
            (.received consumer.receipts.length message, system.setConsumer n after, [])
        | none => (if consumer.inbox.isLive then .empty else .ended, system, [])
      else system.absent

/-- Closes an inbox. -/
def closeInbox (system : System) (n : Nat) : Outcome :=
  match system.consumers[n]? with
  | none => system.absent
  | some consumer =>
      if consumer.canReceive then (.done, system.setConsumer n consumer.closeInbox, [])
      else system.absent

def dropInbox (system : System) (n : Nat) : Outcome :=
  match system.consumers[n]? with
  | none => system.absent
  | some consumer => (.done, system.setConsumer n consumer.dropInbox, [])

/-- Begins to close a consumer that the application still holds. Only the first close does
anything; its result is found in the consumer once it has come to an end. -/
def closeConsumer (system : System) (n : Nat) : Outcome :=
  match system.consumers[n]? with
  | none => system.absent
  | some consumer =>
      if consumer.isHeld then
        match consumer.closing with
        | .notYet => (.done, system.setConsumer n (consumer.beginClose system.now), [])
        | _ => (.outcome (.ok ()), system, [])
      else system.absent

def dropConsumer (system : System) (n : Nat) : Outcome :=
  match system.consumers[n]? with
  | none => system.absent
  | some consumer => (.done, system.setConsumer n consumer.drop, [])

/-! ## Progress of groups -/

/-- Commits a position through a consumer that the application still holds. -/
def commit (system : System) (n : Nat) (token : Token) : Outcome :=
  match system.consumers[n]? with
  | none => system.absent
  | some consumer =>
      if consumer.isHeld then
        let (result, consumer, broker) := consumer.commit system.broker token
        (.outcome result, { system.setConsumer n consumer with broker := broker }, [])
      else system.absent

/-- Acknowledges a received message, whether the application still holds the consumer or not. -/
def ack (system : System) (n receipt : Nat) : Outcome :=
  match system.consumers[n]? with
  | none => system.absent
  | some consumer =>
      match consumer.ack? system.broker receipt with
      | none => system.absent
      | some (result, consumer, broker) =>
          (.outcome result, { system.setConsumer n consumer with broker := broker }, [])

/-- Tells everything in a scope to stop. -/
def cancel (system : System) (scope : String) : Outcome :=
  (.done, { system with cancelled := system.cancelled ++ [scope] }, [])

/-! ## The broker -/

def appendRecord (system : System) (topic : String) (record : Stored) : Outcome :=
  -- The log is asked for its size before it grows.
  let offset := system.broker.size topic
  (.offset offset, { system with broker := system.broker.append topic record },
    [⟨.application, .appended topic offset record⟩])

def failPolls (system : System) (reason : String) : Outcome :=
  (.done, { system with broker := system.broker.failPolls reason }, [])

/-- Does something to a client that replies at once. -/
def withClient (system : System) (n : Nat)
    (use : Client → Reply × Client × Broker) : Outcome :=
  match system.clients[n]? with
  | none => system.absent
  | some client =>
      let (reply, client, broker) := use client
      (reply, { system.setClient n client with broker := broker }, [])

def addClient (system : System) (settings : Settings.Consumer) : Outcome :=
  (.done, { system with clients := system.clients ++ [.ofSettings settings] }, [])

def subscribe (system : System) (n : Nat) (topic : String) : Outcome :=
  system.withClient n fun client => (.outcome (.ok ()), client.subscribe topic, system.broker)

/-- Looks once for the next record of a client. -/
def fetch (system : System) (n : Nat) : Outcome :=
  system.withClient n fun client =>
    let (result, client) := client.next system.broker
    (.fetched (result.mapError .transport), client, system.broker)

def commitClient (system : System) (n : Nat) (token : Token) : Outcome :=
  system.withClient n fun client =>
    let (result, broker) := client.commit system.broker token
    (.outcome (result.mapError .commit), client, broker)

def closeClient (system : System) (n : Nat) : Outcome :=
  system.withClient n fun client => (.outcome (.ok ()), client.close, system.broker)

/-! ## Scripts -/

/-- Changes the script that a consumer reads from. -/
def revise (system : System) (n : Nat) (revision : Revision) : Outcome :=
  match system.consumers[n]? with
  | some consumer =>
      match consumer.source with
      | .scripted script =>
          (.done,
            system.setConsumer n { consumer with source := .scripted (script.revise revision) }, [])
      | _ => system.absent
  | none => system.absent

/-- Takes the calls that the script of a publisher has seen. -/
def takePublisherCalls (system : System) (n : Nat) : Outcome :=
  match system.publishers[n]? with
  | some publisher =>
      match publisher.sink with
      | .scripted plan calls =>
          (.calls calls, system.setPublisher n { publisher with sink := .scripted plan [] }, [])
      | _ => system.absent
  | none => system.absent

/-- Takes the calls that the script of a consumer has seen. -/
def takeConsumerCalls (system : System) (n : Nat) : Outcome :=
  match system.consumers[n]? with
  | some consumer =>
      match consumer.source with
      | .scripted script =>
          (.calls script.calls,
            system.setConsumer n { consumer with source := .scripted { script with calls := [] } },
            [])
      | _ => system.absent
  | none => system.absent

/-- Lets a hanging flush of a publisher return. -/
def releaseFlush (system : System) (n : Nat) : Outcome :=
  match system.publishers[n]? with
  | none => system.absent
  | some publisher => (.done, system.setPublisher n publisher.releaseFlush, [])

/-! ## Tasks -/

/-- What has happened, as the doing of an author. -/
def eventsOf (author : Author) (happenings : List Happening) : List Event :=
  happenings.map fun happening => ⟨author, happening⟩

@[simp]
theorem happeningsOf_eventsOf (author : Author) (happenings : List Happening) :
    happeningsOf author (eventsOf author happenings) = happenings := by
  induction happenings with
  | nil => rfl
  | cons first rest inductionHypothesis =>
      rw [eventsOf, List.map_cons, happeningsOf_cons_self]
      exact congrArg (first :: ·) inductionHypothesis

theorem happeningsOf_eventsOf_of_ne {author other : Author} (different : other ≠ author)
    (happenings : List Happening) : happeningsOf author (eventsOf other happenings) = [] := by
  induction happenings with
  | nil => rfl
  | cons first rest inductionHypothesis =>
      rw [eventsOf, List.map_cons, happeningsOf_cons_of_ne different]
      exact inductionHypothesis

/-- One step of a pump, if it can move. -/
def pumpStep? (system : System) (n : Nat) : Option (System × List Event) := do
  let publisher ← system.publishers[n]?
  let (publisher, broker, happenings) ←
    publisher.pumpStep? system.now (system.isPublisherStopped publisher) system.broker
  return ({ system.setPublisher n publisher with broker := broker },
    eventsOf (.publisher n) happenings)

/-- One step of a drain, if it can move. -/
def drainStep? (system : System) (n : Nat) : Option (System × List Event) := do
  let publisher ← system.publishers[n]?
  let (publisher, happenings) ← publisher.drainStep? system.now
  return (system.setPublisher n publisher, eventsOf (.publisher n) happenings)

/-- One step of the close of a publisher, if it can move. -/
def closePublisherStep? (system : System) (n : Nat) : Option (System × List Event) := do
  let publisher ← system.publishers[n]?
  let (publisher, happenings) ← publisher.closeStep? system.now
  return (system.setPublisher n publisher, eventsOf (.publisher n) happenings)

/-- One step of a poll loop, if it can move. -/
def loopStep? (system : System) (n : Nat) : Option (System × List Event) := do
  let consumer ← system.consumers[n]?
  let (consumer, happenings) ←
    consumer.loopStep? system.now (system.isConsumerStopped consumer) system.broker
  return (system.setConsumer n consumer, eventsOf (.consumer n) happenings)

/-- One step of the close of a consumer, if it can move. -/
def closeConsumerStep? (system : System) (n : Nat) : Option (System × List Event) := do
  let consumer ← system.consumers[n]?
  let consumer ← consumer.closeStep?
  return (system.setConsumer n consumer, [])

/-- A notice of the broker, if one is owed. -/
def notifyStep? (system : System) : Option (System × List Event) :=
  if 0 < system.broker.owed then some ({ system with broker := system.broker.notify }, []) else none

/-- One step of a task, if it can move. -/
def step? (system : System) : Task → Option (System × List Event)
  | .pump n => system.pumpStep? n
  | .drain n => system.drainStep? n
  | .pollLoop n => system.loopStep? n
  | .closePublisher n => system.closePublisherStep? n
  | .closeConsumer n => system.closeConsumerStep? n
  | .notify => system.notifyStep?

/-- Whether the next step of a task counts against its turn. -/
def counts (system : System) : Task → Bool
  | .pump n => system.publishers[n]?.any Publisher.pumpCounts
  | .drain n => system.publishers[n]?.any Publisher.drainCounts
  | .pollLoop n => system.consumers[n]?.any fun consumer => consumer.loopCounts system.now
  | .closePublisher _ | .closeConsumer _ | .notify => false

/-- Whether a close has come to its end. -/
def isOver (system : System) : Task → Bool
  | .closePublisher n => system.publishers[n]?.any Publisher.isClosed
  | .closeConsumer n => system.consumers[n]?.any Consumer.isClosed
  | .pump _ | .drain _ | .pollLoop _ | .notify => false

/-- A task moves by a step if it can. -/
def step (system : System) (task : Task) : Outcome :=
  match system.step? task with
  | none => system.absent
  | some (system, events) => (.done, system, events)

def pass (system : System) (milliseconds : Nat) : Outcome :=
  (.done, { system with now := system.now + milliseconds }, [])

/-- Whether no task can move before time passes or something is done. -/
def IsQuiet (system : System) : Prop :=
  ∀ task, system.step? task = none

/-! ## All actions -/

def act (system : System) : Action → Outcome
  | .register kind name => system.register kind name
  | .addPublisher kind outlet scope => system.addPublisher kind outlet scope
  | .addConsumer kind inlet scope => system.addConsumer kind inlet scope
  | .openPublisher n => system.openPublisher n
  | .send n message => system.send n message
  | .reserve n => system.reserve n
  | .fill n message => system.fill n message
  | .dropOutbox n => system.dropOutbox n
  | .closePublisher n => system.closePublisher n
  | .dropPublisher n => system.dropPublisher n
  | .openConsumer n => system.openConsumer n
  | .receive n => system.receive n
  | .closeInbox n => system.closeInbox n
  | .dropInbox n => system.dropInbox n
  | .closeConsumer n => system.closeConsumer n
  | .dropConsumer n => system.dropConsumer n
  | .ack n receipt => system.ack n receipt
  | .commit n token => system.commit n token
  | .cancel scope => system.cancel scope
  | .append topic key payload => system.appendRecord topic (.ofRaw key payload)
  | .enqueue outbound => system.appendRecord outbound.topic (.ofOutbound outbound)
  | .failPolls reason => system.failPolls reason
  | .addClient settings => system.addClient settings
  | .subscribe n topic => system.subscribe n topic
  | .fetch n => system.fetch n
  | .commitClient n token => system.commitClient n token
  | .closeClient n => system.closeClient n
  | .revise n revision => system.revise n revision
  | .takePublisherCalls n => system.takePublisherCalls n
  | .takeConsumerCalls n => system.takeConsumerCalls n
  | .releaseFlush n => system.releaseFlush n
  | .step task => system.step task
  | .pass milliseconds => system.pass milliseconds

end System

end TopicBus
