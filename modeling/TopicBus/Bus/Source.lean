import TopicBus.Broker.Client
import TopicBus.Bus.Sink

/-!
# Where records come from

A source yields the records of a consumer. It is a client of the broker inside the process, a
remote broker that cannot be reached, or a script.
-/

namespace TopicBus

/-- What a script makes of a poll. -/
inductive PollPlan
  | nothing
  | fail (reason : String)
  | crash
  /-- A record, of the given topic or else of the one subscribed to. -/
  | record (topic : Option String) (record : Record)
  deriving DecidableEq, Repr

/-- A scripted source. -/
structure Script where
  topic : Option String
  polls : List PollPlan
  subscribeFailure : Option String
  commitFailure : Option String
  closeFailure : Option String
  calls : List Call
  deriving DecidableEq, Repr

/-- A change of a script under way. -/
inductive Revision
  /-- More outcomes of polls, after those that are left. -/
  | feed (polls : List PollPlan)
  | failSubscribes (reason : Option String)
  | failCommits (reason : Option String)
  deriving DecidableEq, Repr

def Script.revise (script : Script) : Revision → Script
  | .feed polls => { script with polls := script.polls ++ polls }
  | .failSubscribes reason => { script with subscribeFailure := reason }
  | .failCommits reason => { script with commitFailure := reason }

inductive Source
  | memory (client : Client)
  | scripted (script : Script)
  | remote (group : Option String)
  deriving DecidableEq, Repr

inductive Polled
  | record (record : Record)
  /-- Nothing has come, and the poll is over. -/
  | nothing
  /-- Nothing is there, and the poll goes on. -/
  | idle
  | failed (fault : Fault)
  | crashed
  deriving DecidableEq, Repr

namespace Source

def subscribe (source : Source) (topic : String) : Except Fault Unit × Source :=
  match source with
  | .memory client => (.ok (), .memory (client.subscribe topic))
  | .scripted script =>
      let seen := { script with calls := script.calls ++ [.subscribe topic] }
      match script.subscribeFailure with
      | some reason => (.error (.connection (.other reason)), .scripted seen)
      | none => (.ok (), .scripted { seen with topic := some topic })
  | .remote none => (.error (.connection .unknownGroup), source)
  | .remote (some _) =>
      (if topic.isEmpty then .error (.connection .namelessTopic) else .ok (), source)

/-- Looks for the next record. -/
def poll (source : Source) (broker : Broker) : Polled × Source :=
  match source with
  | .memory client =>
      match client.next broker with
      | (.ok (some record), client) => (.record record, .memory client)
      | (.ok none, client) => (.idle, .memory client)
      | (.error fault, client) => (.failed (.transport fault), .memory client)
  | .scripted script =>
      match script.polls with
      | [] => (.idle, source)
      | plan :: polls =>
          let rest := Source.scripted { script with polls := polls }
          match plan with
          | .nothing => (.nothing, rest)
          | .fail reason => (.failed (.transport (.other reason)), rest)
          | .crash => (.crashed, rest)
          | .record topic record =>
              let topic := topic.getD (script.topic.getD "")
              (.record { record with token := { record.token with topic := topic } }, rest)
  | .remote _ => (.idle, source)

/-- What a poll that begins will be woken by beside its time: a notice of the broker after those
that were given so far. -/
def awaited (source : Source) (broker : Broker) : Option Nat :=
  match source with
  | .memory _ => some broker.notices
  | _ => none

def commit (source : Source) (broker : Broker) (token : Token) :
    Except Fault Unit × Source × Broker :=
  match source with
  | .memory client =>
      let (result, broker) := client.commit broker token
      (result.mapError .commit, source, broker)
  | .scripted script =>
      let seen (succeeded : Bool) : Source :=
        .scripted { script with calls := script.calls ++ [.commit token succeeded] }
      match script.commitFailure with
      | some reason => (.error (.commit (.other reason)), seen false, broker)
      | none => (.ok (), seen true, broker)
  | .remote group =>
      let result : Except Fault Unit :=
        if token.offset + 1 < 0 then .error (.commit .invalidOffset)
        else if group.isNone then .error (.commit .unknownGroup)
        else .ok ()
      (result, source, broker)

def close (source : Source) : Except Fault Unit × Source :=
  match source with
  | .memory client => (.ok (), .memory client.close)
  | .scripted script =>
      let seen := Source.scripted { script with calls := script.calls ++ [.close] }
      match script.closeFailure with
      | some reason => (.error (.transport (.other reason)), seen)
      | none => (.ok (), seen)
  | .remote _ => (.ok (), source)

end Source

end TopicBus
