import TopicBus.Bus.Schedule
import TopicBus.Session.Step

/-!
# Sessions

A session is a scheduled bus with names for its instances and messages. A step is done as one or
more actions; then the tasks go on until each of them waits, a millisecond passes, and flushes
that a script keeps hanging return.
-/

namespace TopicBus

open Session (Step Answer Response Lack Interruption)

/-- A session. Of two bindings of one name the first in the list counts. -/
structure Session where
  schedule : Schedule
  publishers : List (String × Nat)
  consumers : List (String × Nat)
  clients : List (String × Nat)
  /-- The consumers of named messages, and which of their receipts the messages have. -/
  messages : List (String × (Nat × Nat))
  /-- What has happened during the step, the oldest first. -/
  events : List Event

namespace Session

def ofRegistry (registry : Registry) : Session where
  schedule := .ofRegistry registry
  publishers := []
  consumers := []
  clients := []
  messages := []
  events := []

/-- A part of a step. -/
abbrev Doing := StateM Session

/-! ## Acting -/

def act (action : Action) : Doing Reply :=
  modifyGet fun session =>
    let (reply, schedule, events) := session.schedule.act action
    (reply, { session with schedule := schedule, events := session.events ++ events })

/-- Lets the tasks go on, and time pass for so many milliseconds, unless a close is over before. -/
def elapse (close : Option Task) (milliseconds : Nat) : Doing Unit :=
  modify fun session =>
    let (schedule, events) := session.schedule.elapse close milliseconds
    { session with schedule := schedule, events := session.events ++ events }

def wait (milliseconds : Nat) : Doing Unit :=
  elapse none milliseconds

/-- Lets the tasks go on until each of them waits, and a millisecond pass. -/
def settle : Doing Unit :=
  wait 1

def system : Doing System :=
  return (← get).schedule.system

/-! ## Names -/

/-- An instance that goes by a name. -/
inductive Instance
  | publisher (n : Nat)
  | consumer (n : Nat)

/-- The instance that a name means; a publisher comes before a consumer. -/
def instanceOf? (session : Session) (id : String) : Option Instance :=
  match session.publishers.lookup id with
  | some n => some (.publisher n)
  | none => (session.consumers.lookup id).map .consumer

/-- Does something with the publisher of a name. -/
def withPublisher (id : String) (use : Nat → Doing Answer) : Doing Answer := do
  match (← get).publishers.lookup id with
  | some n => use n
  | none => return .lack .instanceUnknown

/-- Does something with the consumer of a name. -/
def withConsumer (id : String) (use : Nat → Doing Answer) : Doing Answer := do
  match (← get).consumers.lookup id with
  | some n => use n
  | none => return .lack .instanceUnknown

/-- Does something with the client of a name. -/
def withClient (id : String) (use : Nat → Doing Answer) : Doing Answer := do
  match (← get).clients.lookup id with
  | some n => use n
  | none => return .lack .instanceUnknown

/-- Does one thing to a publisher or another thing to a consumer, whichever the name means. -/
def withInstance (id : String) (onPublisher onConsumer : Nat → Doing Answer) : Doing Answer := do
  match (← get).instanceOf? id with
  | some (.publisher n) => onPublisher n
  | some (.consumer n) => onConsumer n
  | none => return .lack .instanceUnknown

/-- The answer to an action, where nothing to act on means the given lack. -/
def answerOr (lack : Lack) : Reply → Answer
  | .absent => .lack lack
  | reply => .reply reply

/-- Does an action that answers by itself. -/
def simply (action : Action) : Doing Answer :=
  return .reply (← act action)

/-! ## Instances -/

/-- Makes a publisher, and lets go of the one that had the name. -/
def addPublisher (id : String) (kind : Payload.Kind) (scope : String)
    (outlet : Except Fault Outlet) : Doing Answer := do
  match outlet with
  | .error fault => return .reply (.topic (.error fault))
  | .ok outlet =>
      let n := (← system).publishers.length
      let reply ← act (.addPublisher kind outlet scope)
      if let .topic (.ok _) := reply then
        if let some old := (← get).publishers.lookup id then
          let _ ← act (.dropPublisher old)
          let _ ← act (.dropOutbox old)
        modify fun session => { session with publishers := (id, n) :: session.publishers }
      return .reply reply

/-- Makes a consumer, and lets go of the one that had the name. -/
def addConsumer (id : String) (kind : Payload.Kind) (scope : String) (inlet : Except Fault Inlet) :
    Doing Answer := do
  match inlet with
  | .error fault => return .reply (.topic (.error fault))
  | .ok inlet =>
      let n := (← system).consumers.length
      let reply ← act (.addConsumer kind inlet scope)
      if let .topic (.ok _) := reply then
        if let some old := (← get).consumers.lookup id then
          let _ ← act (.dropConsumer old)
          let _ ← act (.dropInbox old)
        modify fun session => { session with consumers := (id, n) :: session.consumers }
      return .reply reply

def addClient (id : String) (options : Mapping) : Doing Answer := do
  match Settings.Consumer.resolve options with
  | .error cause => return .reply (.outcome (.error (.settings cause)))
  | .ok settings =>
      let n := (← system).clients.length
      let reply ← act (.addClient settings)
      modify fun session => { session with clients := (id, n) :: session.clients }
      return .reply reply

/-- How the close of a publisher has come out, once it is over. -/
def publisherClosed? (n : Nat) (system : System) : Option (Except Fault Unit) :=
  system.publishers[n]?.bind fun publisher =>
    match publisher.closing with
    | .done result => some result
    | _ => none

/-- How the close of a consumer has come out, once it is over. -/
def consumerClosed? (n : Nat) (system : System) : Option (Except Fault Unit) :=
  system.consumers[n]?.bind fun consumer =>
    match consumer.closing with
    | .done result => some result
    | _ => none

/-- Begins a close and waits until it is over, which takes at most so many milliseconds. -/
def awaitClose (action : Action) (close : Task) (limit : Nat)
    (closed? : System → Option (Except Fault Unit)) : Doing Answer := do
  match ← act action with
  | .absent => return .lack .instanceDropped
  | .done =>
      elapse close (limit + 1)
      return .reply (.outcome ((closed? (← system)).getD (.ok ())))
  | reply => return .reply reply

/-- How long the close of a publisher may take. -/
def closeLimit (n : Nat) (system : System) : Nat :=
  (system.publishers[n]?.map (·.flushTimeout)).getD 0

/-- Closes an instance; a consumer comes before a publisher. -/
def close (id : String) : Doing Answer := do
  match (← get).consumers.lookup id with
  | some n => awaitClose (.closeConsumer n) (.closeConsumer n) 0 (consumerClosed? n)
  | none =>
      withPublisher id fun n => do
        awaitClose (.closePublisher n) (.closePublisher n) (closeLimit n (← system))
          (publisherClosed? n)

/-! ## Messages -/

def sendAll (n : Nat) (messages : List Message) : Doing (List Answer) :=
  messages.mapM fun message => return answerOr .channelMissing (← act (.send n message))

/-- Whether an answer tells that a message was sent with the given outcome. -/
def isSent (sent : Sent) : Answer → Bool
  | .reply (.sent found) => found = sent
  | _ => false

/-- The answers of a long burst by their number. -/
def tally (answers : List Answer) : Answer :=
  let accepted := answers.countP (isSent .accepted)
  let full := answers.countP (isSent .full)
  let closed := answers.countP (isSent .closed)
  .tally accepted full closed (answers.length - accepted - full - closed)

/-- Sends messages without a rest between them. -/
def burst (n : Nat) (messages : List Message) (times : Nat) : Doing Answer := do
  let answers ← sendAll n (List.replicate times messages).flatten
  return if times ≤ 1 then .list answers else tally answers

/-- Receives a message and gives it a name. -/
def receive (n : Nat) (name : Option String) : Doing Answer := do
  let reply ← act (.receive n)
  match reply, name with
  | .received receipt _, some name =>
      modify fun session => { session with messages := (name, (n, receipt)) :: session.messages }
  | _, _ => pure ()
  return answerOr .channelMissing reply

/-- Receives at most so many messages, and what comes after the last one; the bus settles after
each. -/
def receiveMany (n : Nat) : Nat → Doing (List Answer)
  | 0 => return []
  | fuel + 1 => do
      let answer ← receive n none
      match answer with
      | .reply (.received _ _) =>
          settle
          return answer :: (← receiveMany n fuel)
      | _ => return [answer]

/-- Receives until nothing is left. There are no more messages than steps that the bus can make. -/
def receiveAll (n : Nat) : Doing Answer := do
  let session ← get
  let held :=
    Schedule.total (fun consumer => consumer.inbox.queue.length) session.schedule.system.consumers
  return .list (← receiveMany n (held + Schedule.effort session.schedule.system + 1))

/-- Does something with the message of a name. -/
def withMessage (name : String) (use : Nat → Nat → Doing Answer) : Doing Answer := do
  match (← get).messages.lookup name with
  | some (n, receipt) => use n receipt
  | none => return .lack .messageUnknown

/-- A receipt of a consumer. -/
def receiptOf? (system : System) (n receipt : Nat) : Option Receipt :=
  system.consumers[n]?.bind fun consumer => consumer.receipts[receipt]?

def ack (name : String) : Doing Answer :=
  withMessage name fun n receipt => do
    let reply ← act (.ack n receipt)
    let isAcked := ((receiptOf? (← system) n receipt).map (·.isAcked)).getD false
    match reply with
    | .outcome result => return .acked result isAcked
    | _ => return .lack .messageUnknown

def showMessage (name : String) : Doing Answer :=
  withMessage name fun n receipt => do
    match receiptOf? (← system) n receipt with
    | some found => return .message found.message
    | none => return .lack .messageUnknown

/-! ## Looking at the bus -/

/-- How many records a consumer has fetched from the broker inside the process. -/
def consumerFetched (system : System) (n : Nat) : Option Int :=
  system.consumers[n]?.bind fun consumer =>
    match consumer.source with
    | .memory client => some client.fetched
    | _ => none

/-- How many records were fetched; a client comes before a consumer. -/
def fetchedCount (id : String) : Doing Answer := do
  match (← get).clients.lookup id with
  | some n => return .number ((← system).clients[n]?.map fun client => client.fetched)
  | none => withConsumer id fun n => return .number (consumerFetched (← system) n)

/-- How many calls the script of a publisher has seen. -/
def publisherCalls (system : System) (n : Nat) : Option Int :=
  system.publishers[n]?.bind fun publisher =>
    match publisher.sink with
    | .scripted _ calls => some calls.length
    | _ => none

/-- How many calls the script of a consumer has seen. -/
def consumerCalls (system : System) (n : Nat) : Option Int :=
  system.consumers[n]?.bind fun consumer =>
    match consumer.source with
    | .scripted script => some script.calls.length
    | _ => none

/-! ## Polling -/

/-- Does what happens while a poll is under way. -/
def interrupt : Interruption → Doing Unit
  | .append topic payload => do
      let _ ← act (.append topic none payload)
  | .failPolls reason => do
      let _ ← act (.failPolls reason)

/-- Looks once for the next record of a client. -/
def fetch (n : Nat) : Doing (Except Fault (Option Record)) := do
  match ← act (.fetch n) with
  | .fetched result => return result
  | _ => return .ok none

/-- Polls a client. If nothing is there, the poll waits until its time is over, or looks once
more as soon as the broker gives notice. A notice at the very end comes too late. The step ends
when the interruption has come too. -/
def poll (n : Nat) (timeout : Nat) (meanwhile : Option (Nat × Interruption)) : Doing Answer := do
  match ← fetch n, meanwhile with
  | .ok none, none =>
      wait timeout
      return .polled (.ok none) timeout
  | .ok none, some (delay, interruption) =>
      if delay < timeout then
        wait delay
        interrupt interruption
        return .polled (← fetch n) delay
      else
        wait delay
        interrupt interruption
        return .polled (.ok none) timeout
  | result, none => return .polled result 0
  | result, some (delay, interruption) =>
      wait delay
      interrupt interruption
      return .polled result 0

/-! ## Steps -/

def perform : Step → Doing Answer
  | .addPublisher id kind scope outlet => addPublisher id kind scope outlet
  | .addConsumer id kind scope inlet => addConsumer id kind scope inlet
  | .addClient id options => addClient id options
  | .openInstance id =>
      withInstance id (fun n => return answerOr .instanceDropped (← act (.openPublisher n)))
        (fun n => return answerOr .instanceDropped (← act (.openConsumer n)))
  | .closeInstance id => close id
  | .drop id =>
      withInstance id (fun n => simply (.dropPublisher n)) (fun n => simply (.dropConsumer n))
  | .dropChannel id =>
      withInstance id (fun n => simply (.dropOutbox n)) (fun n => simply (.dropInbox n))
  | .send id message =>
      withPublisher id fun n => return answerOr .channelMissing (← act (.send n message))
  | .burst id messages times => withPublisher id fun n => burst n messages times
  | .receive id name => withConsumer id fun n => receive n name
  | .receiveAll id => withConsumer id receiveAll
  | .ack name => ack name
  | .showMessage name => showMessage name
  | .commit id token =>
      withConsumer id fun n => return answerOr .instanceDropped (← act (.commit n token))
  | .fetchedCount id => fetchedCount id
  | .cancel scope => simply (.cancel scope)
  | .advance milliseconds => do
      wait milliseconds
      return .reply .done
  | .append topic key payload => simply (.append topic key payload)
  | .enqueue outbound => do
      let _ ← act (.enqueue outbound)
      return .reply .done
  | .flush => return .reply .done
  | .size topic => return .number (some ((← system).broker.size topic))
  | .committed group topic => return .number ((← system).broker.committed? group topic)
  | .failPolls reason => simply (.failPolls reason)
  | .subscribe id topic => withClient id fun n => simply (.subscribe n topic)
  | .poll id timeout meanwhile => withClient id fun n => poll n timeout meanwhile
  | .commitClient id token => withClient id fun n => simply (.commitClient n token)
  | .closeClient id => withClient id fun n => simply (.closeClient n)
  | .calls id =>
      withInstance id (fun n => simply (.takePublisherCalls n))
        (fun n => simply (.takeConsumerCalls n))
  | .callCount id =>
      withInstance id (fun n => return .number (publisherCalls (← system) n))
        (fun n => return .number (consumerCalls (← system) n))
  | .failCommits id reason => withConsumer id fun n => simply (.revise n (.failCommits reason))
  | .failSubscribes id reason =>
      withConsumer id fun n => simply (.revise n (.failSubscribes reason))
  | .feed id polls => withConsumer id fun n => simply (.revise n (.feed polls))

/-- Lets every flush that a script keeps hanging return. -/
def releaseFlushes : Doing Unit := do
  for n in List.range (← system).publishers.length do
    let _ ← act (.releaseFlush n)

/-- Whether the notes of a step depend on when a hanging flush is given up, and so are not told. -/
def isUntold (session : Session) (step : Step) : Bool :=
  let publisher? := do
    let id ← step.id?
    let n ← session.publishers.lookup id
    session.schedule.system.publishers[n]?
  match publisher? with
  | some publisher =>
      match publisher.sink with
      | .scripted .hang _ => true
      | _ => false
  | none => false

/-- Does a step, lets the bus come to rest, and answers. -/
def respond (step : Step) : Doing Response := do
  modify fun session => { session with events := [] }
  let answer ← perform step
  settle
  releaseFlushes
  let session ← get
  let notes := session.events.filterMap Event.note?
  return ⟨answer, if session.isUntold step then [] else notes⟩

end Session

end TopicBus
