import TopicBus.Bus.Event

/-!
# Where records go

A sink takes the records of a publisher. It is the broker inside the process, a remote broker
that cannot be reached, or a script that decides by the key of a record what becomes of it.
-/

namespace TopicBus

/-- The calls that a scripted transport has seen. -/
inductive Call
  | subscribe (topic : String)
  | commit (token : Token) (succeeded : Bool)
  | close
  | enqueue (outbound : Outbound)
  | flush (timeout : Nat)
  deriving DecidableEq, Repr

/-- How the delivery of a record is reported. -/
inductive Report
  | delivered
  | failed (fault : Fault)
  /-- The failure is reported at a later time. -/
  | late (due : Nat) (fault : Fault)
  /-- Whoever waits for the report crashes. -/
  | crash
  | never
  deriving DecidableEq, Repr

/-- What becomes of a record that is handed to a sink. -/
inductive Enqueued
  | taken (report : Report)
  | refused (fault : Fault)
  | crashed
  deriving DecidableEq, Repr

def Enqueued.isTaken : Enqueued → Bool
  | .taken _ => true
  | .refused _ | .crashed => false

/-- What becomes of a flush. -/
inductive Flushed
  | finished (result : Except Fault Unit)
  /-- The flush does not return by itself. -/
  | hanging

/-- How a script flushes. -/
inductive FlushPlan
  | succeed
  | fail (reason : String)
  | crash
  | hang
  deriving DecidableEq, Repr

inductive Sink
  | memory
  | scripted (plan : FlushPlan) (calls : List Call)
  /-- The flags tell whether any record can be delivered in time, and whether records wait for
  the broker. -/
  | remote (inTime pending : Bool)
  deriving DecidableEq, Repr

namespace Sink

/-- A failure with a reason that a script gives. -/
def scriptedFault (reason : String) : Fault :=
  .transport (.other reason)

/-- How many milliseconds a late report takes. -/
def lateness : Nat := 5

/-- What a script does with a record, by its key. -/
def scriptedAnswer (now : Nat) (key : Option String) : Enqueued :=
  match key with
  | some "reject" => .refused (scriptedFault "queue full")
  | some "panic" => .crashed
  | some "undeliverable" => .taken (.failed (scriptedFault "no leader"))
  | some "late-undeliverable" => .taken (.late (now + lateness) (scriptedFault "timed out"))
  | some "panic-report" => .taken .crash
  | some "stuck" => .taken .never
  | _ => .taken .delivered

/-- How many octets of a record a remote broker takes. -/
def greatestRecord : Nat := 1000000

/-- How many octets of a topic's name a remote broker takes. -/
def greatestName : Nat := 512

/-- How many octets of seven bits a number takes, which is written with a further bit for its
sign. -/
def lengthOctets (n : Nat) : Nat :=
  if n < 64 then 1 else lengthOctets (n / 128) + 1
termination_by n

/-- The octets of a text after the octets of its length. -/
def measured (s : String) : Nat :=
  lengthOctets s.utf8ByteSize + s.utf8ByteSize

/-- The most octets that a record takes beside its key, payload and headers. -/
def overhead : Nat := 36

def weight (outbound : Outbound) : Nat :=
  overhead + outbound.key.elim 0 String.utf8ByteSize + outbound.payload.length +
    outbound.headers.entries.foldl (fun sum header => sum + measured header.1 + measured header.2) 0

/-- What a remote broker's client does with a record. A header's name with a zero octet is more
than it can take. -/
def remoteAnswer (inTime : Bool) (outbound : Outbound) : Enqueued :=
  if outbound.headers.entries.any fun header => Text.holdsZero header.1 then .crashed
  else if Text.holdsZero outbound.topic then .refused (.transport .zeroOctet)
  -- A record without time to be delivered is refused in the same way as a name that is too long.
  else if greatestName < outbound.topic.utf8ByteSize || !inTime then
    .refused (.transport .refusedTopic)
  else if greatestRecord < weight outbound then .refused (.transport .recordTooLarge)
  else .taken .never

/-- Hands a record to a sink. -/
def enqueue (sink : Sink) (now : Nat) (broker : Broker) (outbound : Outbound) :
    Enqueued × Sink × Broker :=
  match sink with
  | .memory =>
      (.taken .delivered, .memory, broker.append outbound.topic (Stored.ofOutbound outbound))
  | .scripted plan calls =>
      (scriptedAnswer now outbound.key, .scripted plan (calls ++ [.enqueue outbound]), broker)
  | .remote inTime pending =>
      let answer := remoteAnswer inTime outbound
      (answer, .remote inTime (pending || answer.isTaken), broker)

/-- Waits until all records are delivered. -/
def flush (sink : Sink) (timeout : Nat) : Flushed × Sink :=
  match sink with
  | .memory => (.finished (.ok ()), .memory)
  | .scripted plan calls =>
      let outcome : Flushed :=
        match plan with
        | .succeed => .finished (.ok ())
        | .fail reason => .finished (.error (scriptedFault reason))
        | .crash => .finished (.error (.shutdown .flush))
        | .hang => .hanging
      (outcome, .scripted plan (calls ++ [.flush timeout]))
  | .remote inTime pending =>
      (.finished (if pending then .error (.remote .flushTimedOut) else .ok ()),
        .remote inTime pending)

end Sink

end TopicBus
