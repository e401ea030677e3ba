import TopicBus.Bus.Channel
import TopicBus.Bus.Sink
import TopicBus.Payload.Wire
import TopicBus.Registry
import TopicBus.Settings.Basic

/-!
# Publishers

Messages that the application puts into the outbox are encoded and handed to the sink in order
by the pump; the reports of their delivery are drained by a second task. Closing stops the pump,
which first hands over what the outbox still holds, and waits for it and for the reports up to a
deadline. The pump, the drain and a close under way move by single steps, so that anything may
happen between two of them.
-/

namespace TopicBus

/-- How far the pump of a publisher has come. -/
inductive Pump
  | unstarted
  /-- Opening has crashed before there was a pump. -/
  | missing
  | receiving
  /-- A report is to get a place in the queue of reports; the flag tells whether the outbox is
  being emptied. -/
  | handing (report : Report) (emptying : Bool)
  /-- The outbox takes nothing more, and what it holds is handed over. -/
  | emptying
  /-- A flush hangs until the given time or until it is released. -/
  | flushing (deadline : Nat) (released : Bool)
  | finished (result : Except Fault Unit)
  /-- The pump has crashed or was given up. -/
  | gone

/-- How far the drain of reports has come. -/
inductive Drain
  | unstarted
  /-- Reports that have not come in yet, the oldest first. -/
  | running (awaited : List Report)
  | finished
  /-- The drain has crashed or was given up. -/
  | gone
  deriving DecidableEq, Repr

/-- How far the closing of an instance has come. -/
inductive Closing
  | notYet
  /-- A flush of a publisher without tasks hangs until the given time. -/
  | flushing (deadline : Nat)
  | awaitingTask (deadline : Nat)
  | awaitingReports (deadline : Nat) (flushed : Except Fault Unit)
  | done (result : Except Fault Unit)

structure Publisher where
  topic : Topic
  sink : Sink
  buffer : Nat
  flushTimeout : Nat
  /-- The name of the scope that it was made in. -/
  scope : String
  /-- Whether it was told to stop by itself; its scope may tell it too. -/
  stopped : Bool
  /-- Whether the application still holds it. -/
  isHeld : Bool
  outbox : Channel Message
  reports : Channel Report
  pump : Pump
  drain : Drain
  closing : Closing

namespace Publisher

/-- What comes of a step: the publisher, the broker and what has happened. -/
abbrev Moved := Publisher × Broker × List Happening

/-- How many reports may wait to be drained. -/
def reportQueue : Nat := 1000

def create (topic : Topic) (sink : Sink) (settings : Settings.Producer) (scope : String) :
    Publisher where
  topic := topic
  sink := sink
  buffer := settings.bufferSize
  flushTimeout := settings.flushTimeout
  scope := scope
  stopped := false
  isHeld := true
  outbox := (Channel.ofBuffer settings.bufferSize).dropSender.dropReceiver
  reports := (Channel.ofBuffer reportQueue).dropSender.dropReceiver
  pump := .unstarted
  drain := .unstarted
  closing := .notYet

/-! ## Calls of the application -/

def isOpened (publisher : Publisher) : Bool :=
  match publisher.pump with
  | .unstarted => false
  | _ => true

/-- Whether the tasks were started. -/
def hasTasks (publisher : Publisher) : Bool :=
  match publisher.pump with
  | .unstarted | .missing => false
  | _ => true

/-- Starts the tasks and gives the capacity of the outbox. If there can be no such outbox, the call
crashes, and the publisher counts as opened all the same. -/
def openOutbox (publisher : Publisher) : Option (Except Fault Nat) × Publisher :=
  if publisher.isOpened then (some (.error .alreadyOpen), publisher)
  else
    match Channel.ofBuffer? publisher.buffer with
    | none => (none, { publisher with pump := .missing })
    | some outbox =>
        (some (.ok outbox.capacity),
          { publisher with
            outbox := outbox
            reports := .ofBuffer reportQueue
            pump := .receiving
            drain := .running [] })

/-- Puts a message into the outbox without a pause. -/
def send (publisher : Publisher) (message : Message) : Sent × Publisher :=
  let (sent, outbox) := publisher.outbox.send message
  (sent, { publisher with outbox := outbox })

/-- Gets a place in the outbox for a message to come. -/
def reserve (publisher : Publisher) : Sent × Publisher :=
  let (sent, outbox) := publisher.outbox.reserve
  (sent, { publisher with outbox := outbox })

/-- Puts a message into a place of the outbox that is held for it. -/
def fill (publisher : Publisher) (message : Message) : Publisher :=
  { publisher with outbox := publisher.outbox.fill message }

def dropOutbox (publisher : Publisher) : Publisher :=
  { publisher with outbox := publisher.outbox.dropSender }

/-- Lets go of a publisher, which stops it. -/
def drop (publisher : Publisher) : Publisher :=
  { publisher with stopped := true, isHeld := false }

/-- Begins to close. A publisher without tasks only flushes its sink. -/
def beginClose (publisher : Publisher) (now : Nat) : Publisher :=
  match publisher.closing with
  | .notYet =>
      let publisher := { publisher with stopped := true }
      let deadline := now + publisher.flushTimeout
      if publisher.hasTasks then { publisher with closing := .awaitingTask deadline }
      else
        let (flushed, sink) := publisher.sink.flush publisher.flushTimeout
        match flushed with
        | .finished result => { publisher with sink := sink, closing := .done result }
        | .hanging => { publisher with sink := sink, closing := .flushing deadline }
  | _ => publisher

/-! ## The pump -/

/-- The state of the pump between two messages. -/
def betweenMessages (emptying : Bool) : Pump :=
  if emptying then .emptying else .receiving

/-- Goes on with the next message. -/
def proceed (publisher : Publisher) (emptying : Bool) : Publisher :=
  { publisher with pump := betweenMessages emptying }

/-- Hands over the report of a record, if that is possible now. A stopped publisher does not
wait for a place. -/
def handReport? (publisher : Publisher) (cancelled emptying : Bool) (report : Report) :
    Option (Publisher × List Happening) :=
  let topic := publisher.topic.name
  if !publisher.reports.hasReceiver then
    some (publisher.proceed emptying, [.noted (.drainGone topic)])
  else if publisher.reports.hasRoom then
    some ({ publisher with reports := publisher.reports.push report }.proceed emptying, [])
  -- The record itself is with the sink already; it is only its report that gets lost.
  else if cancelled then some (publisher.proceed emptying, [.noted (.reportDropped topic)])
  else none

def outbound (publisher : Publisher) (message : Message) (payload : Text.Bytes) : Outbound where
  topic := publisher.topic.name
  key := message.key
  payload := payload
  headers := message.headers

/-- What a sink has stored, as it can be observed. -/
def appendedBy (before after : Broker) : List Happening :=
  (after.appended.drop before.appended.length).map fun entry =>
    .appended entry.1 (before.size entry.1) entry.2

/-- The pump is gone, and with it its ends of the channels. -/
def losePump (publisher : Publisher) : Publisher :=
  { publisher with
    pump := .gone
    outbox := publisher.outbox.dropReceiver
    reports := publisher.reports.dropSender }

/-- Encodes a message and hands it to the sink. A message that cannot be encoded is left out. -/
def publish (publisher : Publisher) (now : Nat) (emptying : Bool) (broker : Broker)
    (message : Message) : Moved :=
  let topic := publisher.topic.name
  match message.value.encode with
  | .error _ => (publisher.proceed emptying, broker, [.noted (.unencodable topic)])
  | .ok payload =>
      let (enqueued, sink, after) :=
        publisher.sink.enqueue now broker (publisher.outbound message payload)
      let publisher := { publisher with sink := sink }
      let stored := appendedBy broker after
      match enqueued with
      | .refused fault =>
          (publisher.proceed emptying, after, stored ++ [.noted (.refused topic fault)])
      | .crashed => (publisher.losePump, after, stored)
      | .taken report => ({ publisher with pump := .handing report emptying }, after, stored)

/-- Takes nothing more from the application. -/
def stopReceiving (publisher : Publisher) : Publisher :=
  { publisher with pump := .emptying, outbox := publisher.outbox.closeReceiver }

/-- The pump is done with its messages: no further report will come, and the sink is flushed. -/
def finishPump (publisher : Publisher) (now : Nat) : Publisher :=
  let (flushed, sink) := publisher.sink.flush publisher.flushTimeout
  { publisher with
    sink := sink
    reports := publisher.reports.dropSender
    pump :=
      match flushed with
      | .finished result => .finished result
      | .hanging => .flushing (now + publisher.flushTimeout) false }

/-- A flush that takes longer than it may. -/
def overdueFlush (publisher : Publisher) : Fault :=
  .transport (.flushOverdue publisher.flushTimeout)

/-- One step of the pump, if it can move. That the publisher is stopped comes first. -/
def pumpStep? (publisher : Publisher) (now : Nat) (cancelled : Bool) (broker : Broker) :
    Option Moved :=
  match publisher.pump with
  | .receiving =>
      -- What waits in the outbox stays there for the emptying.
      if cancelled then some (publisher.stopReceiving, broker, [])
      else
        match publisher.outbox.pop? with
        | some (message, outbox) =>
            some ({ publisher with outbox := outbox }.publish now false broker message)
        | none =>
            if publisher.outbox.awaitsMore then none
            else some (publisher.stopReceiving, broker, [])
  | .handing report emptying =>
      (publisher.handReport? cancelled emptying report).map fun (publisher, happenings) =>
        (publisher, broker, happenings)
  | .emptying =>
      match publisher.outbox.pop? with
      | some (message, outbox) =>
          some ({ publisher with outbox := outbox }.publish now true broker message)
      -- Places that are still held are not waited for.
      | none => some (publisher.finishPump now, broker, [])
  | .flushing deadline released =>
      if released then some ({ publisher with pump := .finished (.ok ()) }, broker, [])
      else if deadline ≤ now then
        some ({ publisher with pump := .finished (.error publisher.overdueFlush) }, broker,
          [.noted (.flushOverdue publisher.flushTimeout)])
      else none
  | .unstarted | .missing | .finished _ | .gone => none

/-- Whether the next step of the pump counts against its turn: taking a message does, as long as
the outbox takes any, and so does handing over a report. -/
def pumpCounts (publisher : Publisher) : Bool :=
  match publisher.pump with
  | .receiving | .handing _ _ => true
  | _ => false

/-! ## The drain of reports -/

/-- The first awaited report that is due, and the others. -/
def takeDue (now : Nat) : List Report → Option (Fault × List Report)
  | [] => none
  | .late due fault :: rest =>
      if due ≤ now then some (fault, rest)
      else (takeDue now rest).map fun (found, others) => (found, .late due fault :: others)
  | report :: rest => (takeDue now rest).map fun (found, others) => (found, report :: others)

/-- The drain is gone, and with it what waits in the queue of reports. -/
def loseDrain (publisher : Publisher) : Publisher :=
  { publisher with drain := .gone, reports := publisher.reports.dropReceiver }

/-- Takes a report from the queue. -/
def drainReport (publisher : Publisher) (awaited : List Report) (report : Report) :
    Publisher × List Happening :=
  match report with
  | .delivered => (publisher, [])
  | .failed fault => (publisher, [.noted (.undelivered publisher.topic.name fault)])
  | .crash => (publisher.loseDrain, [])
  | .late _ _ | .never => ({ publisher with drain := .running (awaited ++ [report]) }, [])

/-- One step of the drain, if it can move. -/
def drainStep? (publisher : Publisher) (now : Nat) : Option (Publisher × List Happening) :=
  match publisher.drain with
  | .running awaited =>
      match publisher.reports.pop? with
      | some (report, reports) =>
          some ({ publisher with reports := reports }.drainReport awaited report)
      | none =>
          match takeDue now awaited with
          | some (fault, others) =>
              some ({ publisher with drain := .running others },
                [.noted (.undelivered publisher.topic.name fault)])
          | none =>
              if awaited.isEmpty && !publisher.reports.hasSender then
                some ({ publisher with drain := .finished }, [])
              else none
  | .unstarted | .finished | .gone => none

/-- Whether the next step of the drain counts against its turn: taking a report and the end of a
delay do. -/
def drainCounts (publisher : Publisher) : Bool :=
  match publisher.drain with
  | .running _ => true
  | _ => false

/-! ## A close under way -/

/-- One step of a close, if it can move. What is awaited counts before its deadline. -/
def closeStep? (publisher : Publisher) (now : Nat) : Option (Publisher × List Happening) :=
  let topic := publisher.topic.name
  let limit := publisher.flushTimeout
  match publisher.closing with
  | .flushing deadline =>
      if deadline ≤ now then
        some ({ publisher with closing := .done (.error publisher.overdueFlush) },
          [.noted (.flushOverdue limit)])
      else none
  | .awaitingTask deadline =>
      match publisher.pump with
      | .finished result =>
          some ({ publisher with closing := .awaitingReports deadline result }, [])
      | .gone => some ({ publisher with closing := .done (.error (.shutdown .pump)) }, [])
      | _ =>
          if deadline ≤ now then
            -- The pump goes, and with it whatever it has not handed over.
            some ({ publisher.losePump.loseDrain with
              closing := .done (.error (.transport (.publisherOverdue limit))) },
              [.noted (.publisherOverdue topic limit)])
          else none
  | .awaitingReports deadline flushed =>
      match publisher.drain with
      | .finished => some ({ publisher with closing := .done flushed }, [])
      | .gone => some ({ publisher with closing := .done (.error (.shutdown .reports)) }, [])
      | _ =>
          if deadline ≤ now then
            -- The sink has been flushed, so its result stands although reports are missing.
            some ({ publisher.loseDrain with closing := .done flushed },
              [.noted (.reportsPending topic limit)])
          else none
  | .notYet | .done _ => none

/-- Whether a close has come to its end. -/
def isClosed (publisher : Publisher) : Bool :=
  match publisher.closing with
  | .done _ => true
  | _ => false

/-! ## Time -/

/-- Lets a hanging flush of the pump return. -/
def releaseFlush (publisher : Publisher) : Publisher :=
  match publisher.pump with
  | .flushing deadline _ => { publisher with pump := .flushing deadline true }
  | _ => publisher

/-- The times at which a step may become possible. -/
def timers (publisher : Publisher) : List Nat :=
  let pump :=
    match publisher.pump with
    | .flushing deadline _ => [deadline]
    | _ => []
  let drain :=
    match publisher.drain with
    | .running awaited =>
        awaited.filterMap fun report =>
          match report with
          | .late due _ => some due
          | _ => none
    | _ => []
  let closing :=
    match publisher.closing with
    | .flushing deadline | .awaitingTask deadline | .awaitingReports deadline _ => [deadline]
    | _ => []
  pump ++ drain ++ closing

end Publisher

end TopicBus
