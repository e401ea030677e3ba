import TopicBus.Bus.Channel
import TopicBus.Bus.Publisher
import TopicBus.Bus.Source
import TopicBus.Payload.Wire
import TopicBus.Registry

/-!
# Consumers

A poll loop takes records from the source in order, decodes them and puts the messages into the
inbox, where it waits while the inbox is full. Records that cannot be decoded are skipped; a
failing poll ends the loop. A poll notes how many notices there were so far, looks for a record,
waits for a further notice if there is none, and looks once more after that. The loop and a
close under way move by single steps, and everything else may happen between two of them.
-/

namespace TopicBus

/-- How far the poll loop of a consumer has come. -/
inductive PollLoop
  | unstarted
  /-- Opening has crashed before there was a loop. -/
  | missing
  /-- A poll is to begin. -/
  | polling
  /-- A poll has begun when there were so many notices, and is to look for a record. -/
  | looking (notices : Option Nat)
  /-- A poll has found nothing. It waits until the given time, or for a notice after so many
  others. -/
  | waiting (deadline : Nat) (notices : Option Nat)
  /-- A poll was woken by a notice, and is to look a second time. -/
  | lookingAgain
  /-- A message waits for a place in the inbox. -/
  | holding (message : Message)
  | ended
  | crashed
  deriving DecidableEq, Repr

namespace PollLoop

/-- Whether a loop has begun and goes on. -/
def isRunning : PollLoop → Bool
  | .polling | .looking _ | .waiting _ _ | .lookingAgain | .holding _ => true
  | .unstarted | .missing | .ended | .crashed => false

/-- How a loop goes on that has looked and found nothing: a poll waits after its first look, and
is over after its second one. -/
def afterNothing (loop : PollLoop) (deadline : Nat) : PollLoop :=
  match loop with
  | .looking notices => .waiting deadline notices
  | _ => .polling

end PollLoop

/-- A message, and whether it was acknowledged. -/
structure Receipt where
  message : Message
  isAcked : Bool
  deriving DecidableEq, Repr

namespace Receipt

/-- A message that nobody has acknowledged yet. -/
def ofMessage (message : Message) : Receipt :=
  ⟨message, false⟩

@[simp]
theorem message_ofMessage (message : Message) : (ofMessage message).message = message :=
  rfl

@[simp]
theorem isAcked_ofMessage (message : Message) : (ofMessage message).isAcked = false :=
  rfl

/-- Acknowledges a message at most once: a repetition does nothing, and after a failure it may
be tried again. A message that was not made from a record cannot be acknowledged. What the
commit leaves behind is handed on. -/
def ack {World : Type} (receipt : Receipt) (commit : Token → Except Fault Unit × World)
    (world : World) : Except Fault Unit × Receipt × World :=
  if receipt.isAcked then (.ok (), receipt, world)
  else
    match receipt.message.token with
    | none => (.error .notAckable, receipt, world)
    | some token =>
        match commit token with
        | (.error fault, world) => (.error fault, receipt, world)
        | (.ok (), world) => (.ok (), { receipt with isAcked := true }, world)

end Receipt

structure Consumer where
  topic : Topic
  source : Source
  buffer : Nat
  pollTimeout : Nat
  /-- The name of the scope that it was made in. -/
  scope : String
  /-- Whether it was told to stop by itself; its scope may tell it too. -/
  stopped : Bool
  /-- Whether the application still holds it. -/
  isHeld : Bool
  inbox : Channel Message
  /-- Whether the application takes the rest out of an inbox that it has given up. -/
  takesRest : Bool
  /-- What the application has received, the oldest first. -/
  receipts : List Receipt
  loop : PollLoop
  closing : Closing

namespace Consumer

def create (topic : Topic) (source : Source) (settings : Settings.Consumer) (scope : String) :
    Consumer where
  topic := topic
  source := source
  buffer := settings.bufferSize
  pollTimeout := settings.pollTimeout
  scope := scope
  stopped := false
  isHeld := true
  inbox := (Channel.ofBuffer settings.bufferSize).dropSender.dropReceiver
  takesRest := false
  receipts := []
  loop := .unstarted
  closing := .notYet

/-! ## Calls of the application -/

def isOpened (consumer : Consumer) : Bool :=
  match consumer.loop with
  | .unstarted => false
  | _ => true

/-- Whether the poll loop was started. -/
def hasLoop (consumer : Consumer) : Bool :=
  match consumer.loop with
  | .unstarted | .missing => false
  | _ => true

/-- Subscribes and starts the poll loop. If there can be no such inbox, the call crashes after
it has subscribed, and the consumer counts as opened all the same. -/
def openInbox (consumer : Consumer) : Option (Except Fault Unit) × Consumer :=
  if consumer.isOpened then (some (.error .alreadyOpen), consumer)
  else
    match consumer.source.subscribe consumer.topic.name with
    | (.error fault, source) => (some (.error fault), { consumer with source := source })
    | (.ok (), source) =>
        match Channel.ofBuffer? consumer.buffer with
        | none => (none, { consumer with source := source, loop := .missing })
        | some inbox =>
            (some (.ok ()),
              { consumer with source := source, inbox := inbox, loop := .polling })

/-- Whether the application can receive: it has the inbox, or takes the rest out of it. -/
def canReceive (consumer : Consumer) : Bool :=
  consumer.inbox.hasReceiver || consumer.takesRest

theorem canReceive_of_hasReceiver {consumer : Consumer}
    (hasReceiver : consumer.inbox.hasReceiver = true) : consumer.canReceive = true := by
  rw [canReceive, hasReceiver, Bool.true_or]

def receive? (consumer : Consumer) : Option (Message × Consumer) :=
  consumer.inbox.pop?.map fun (message, inbox) =>
    (message,
      { consumer with inbox := inbox, receipts := consumer.receipts ++ [.ofMessage message] })

/-- Gives up the inbox, so that no more messages come. What it holds can still be received. -/
def closeInbox (consumer : Consumer) : Consumer :=
  { consumer with inbox := consumer.inbox.closeReceiver, takesRest := true }

/-- Gives up the inbox together with what it holds. -/
def dropInbox (consumer : Consumer) : Consumer :=
  { consumer with inbox := consumer.inbox.dropReceiver, takesRest := false }

/-- Lets go of a consumer, which stops it. -/
def drop (consumer : Consumer) : Consumer :=
  { consumer with stopped := true, isHeld := false }

def commit (consumer : Consumer) (broker : Broker) (token : Token) :
    Except Fault Unit × Consumer × Broker :=
  let (result, source, broker) := consumer.source.commit broker token
  (result, { consumer with source := source }, broker)

/-- Acknowledges the message received after `n` others. -/
def ack? (consumer : Consumer) (broker : Broker) (n : Nat) :
    Option (Except Fault Unit × Consumer × Broker) :=
  consumer.receipts[n]?.map fun receipt =>
    let (result, receipt, consumer, broker) :=
      receipt.ack (fun token => consumer.commit broker token) (consumer, broker)
    (result, { consumer with receipts := consumer.receipts.set n receipt }, broker)

/-- Leaves the subscription, which ends the close. -/
def finishClose (consumer : Consumer) : Consumer :=
  let (result, source) := consumer.source.close
  { consumer with source := source, closing := .done result }

/-- Begins to close. A consumer without a loop only leaves the subscription. -/
def beginClose (consumer : Consumer) (now : Nat) : Consumer :=
  match consumer.closing with
  | .notYet =>
      let consumer := { consumer with stopped := true }
      if consumer.hasLoop then { consumer with closing := .awaitingTask now }
      else consumer.finishClose
  | _ => consumer

/-! ## The poll loop -/

/-- The loop ends, and the inbox gets no more messages. -/
def endLoop (consumer : Consumer) (loop : PollLoop) : Consumer :=
  { consumer with loop := loop, inbox := consumer.inbox.dropSender }

/-- Goes on after a record was fetched: the message made from it is held, or the record is
skipped. -/
def handle (consumer : Consumer) (record : Record) : Consumer × List Happening :=
  match record.payload with
  | none =>
      ({ consumer with loop := .polling },
        [.fetched record, .noted (.emptyRecord record.token)])
  | some payload =>
      match Payload.decode consumer.topic.kind payload with
      | .error _ =>
          ({ consumer with loop := .polling },
            [.fetched record, .noted (.undecodable record.token)])
      | .ok value =>
          ({ consumer with loop := .holding (Message.ofRecord record value) }, [.fetched record])

/-- Looks into the source for the next record. -/
def look (consumer : Consumer) (now : Nat) (broker : Broker) : Consumer × List Happening :=
  let (polled, source) := consumer.source.poll broker
  let consumer := { consumer with source := source }
  match polled with
  | .record record => consumer.handle record
  | .nothing => ({ consumer with loop := .polling }, [])
  | .idle =>
      ({ consumer with loop := consumer.loop.afterNothing (now + consumer.pollTimeout) }, [])
  | .failed fault => (consumer.endLoop .ended, [.noted (.pollFailed consumer.topic.name fault)])
  | .crashed => (consumer.endLoop .crashed, [])

/-- One step of the loop, if it can move. That the consumer is stopped comes first, whatever the
step would be: a stop takes effect at the next step of the loop, and one that comes while a step
is under way stands behind that step. -/
def loopStep? (consumer : Consumer) (now : Nat) (cancelled : Bool) (broker : Broker) :
    Option (Consumer × List Happening) :=
  if cancelled && consumer.loop.isRunning then some (consumer.endLoop .ended, [])
  else
    match consumer.loop with
    | .unstarted | .missing | .ended | .crashed => none
    | .polling => some ({ consumer with loop := .looking (consumer.source.awaited broker) }, [])
    | .looking _ | .lookingAgain => some (consumer.look now broker)
    | .waiting deadline notices =>
        if notices.any (· < broker.notices) then some ({ consumer with loop := .lookingAgain }, [])
        else if deadline ≤ now then some ({ consumer with loop := .polling }, [])
        else none
    | .holding message =>
        -- Without a receiver the held message gets lost, but nobody has committed its position.
        if !consumer.inbox.hasReceiver then some (consumer.endLoop .ended, [])
        else if consumer.inbox.hasRoom then
          some ({ consumer with loop := .polling, inbox := consumer.inbox.push message }, [])
        else none

/-- Whether the next step of the loop counts against its turn: putting a message into the inbox
does, and so does the end of a poll's time. -/
def loopCounts (consumer : Consumer) (now : Nat) : Bool :=
  match consumer.loop with
  | .holding _ => true
  | .waiting deadline _ => deadline ≤ now
  | _ => false

/-! ## A close under way -/

/-- One step of a close, if it can move. It waits for the loop as long as that takes. -/
def closeStep? (consumer : Consumer) : Option Consumer :=
  match consumer.closing, consumer.loop with
  | .awaitingTask _, .ended => some consumer.finishClose
  | .awaitingTask _, .crashed =>
      some { consumer with closing := .done (.error (.shutdown .pollLoop)) }
  | _, _ => none

/-- Whether a close has come to its end. -/
def isClosed (consumer : Consumer) : Bool :=
  match consumer.closing with
  | .done _ => true
  | _ => false

/-- The times at which a step may become possible. -/
def timers (consumer : Consumer) : List Nat :=
  match consumer.loop with
  | .waiting deadline _ => [deadline]
  | _ => []

end Consumer

end TopicBus
