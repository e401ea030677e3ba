import TopicBus.Bus.System

/-!
# The steps of a session and their answers

A session drives a bus by named instances: every step is one call, and its answer says what came
of the call once the tasks in the background have gone as far as they can.
-/

namespace TopicBus.Session

/-- What happens at the broker while a poll is under way. -/
inductive Interruption
  | append (topic : String) (payload : Text.Bytes)
  | failPolls (reason : String)
  deriving DecidableEq, Repr

/-- A step. Instances and messages go by names. -/
inductive Step
  | addPublisher (id : String) (kind : Payload.Kind) (scope : String) (outlet : Except Fault Outlet)
  | addConsumer (id : String) (kind : Payload.Kind) (scope : String) (inlet : Except Fault Inlet)
  | addClient (id : String) (options : Mapping)
  | openInstance (id : String)
  | closeInstance (id : String)
  /-- Lets go of an instance, but not of its channel. -/
  | drop (id : String)
  | dropChannel (id : String)
  | send (id : String) (message : Message)
  /-- Sends messages without a rest between them, so many times over. -/
  | burst (id : String) (messages : List Message) (times : Nat)
  /-- Receives a message, and names it if a name is given. -/
  | receive (id : String) (name : Option String)
  | receiveAll (id : String)
  | ack (name : String)
  | showMessage (name : String)
  | commit (id : String) (token : Token)
  | fetchedCount (id : String)
  | cancel (scope : String)
  | advance (milliseconds : Nat)
  | append (topic : String) (key : Option String) (payload : Text.Bytes)
  | enqueue (outbound : Outbound)
  | flush
  | size (topic : String)
  | committed (group topic : String)
  | failPolls (reason : String)
  | subscribe (id : String) (topic : String)
  | poll (id : String) (timeout : Nat) (meanwhile : Option (Nat × Interruption))
  | commitClient (id : String) (token : Token)
  | closeClient (id : String)
  /-- Takes the calls that a script has seen. -/
  | calls (id : String)
  /-- Counts the calls that a script has seen. -/
  | callCount (id : String)
  | failCommits (id : String) (reason : Option String)
  | failSubscribes (id : String) (reason : Option String)
  | feed (id : String) (polls : List PollPlan)

/-- The instance that a step names. -/
def Step.id? : Step → Option String
  | .addPublisher id _ _ _ | .addConsumer id _ _ _ | .addClient id _ | .openInstance id
  | .closeInstance id | .drop id | .dropChannel id | .send id _ | .burst id _ _ | .receive id _
  | .receiveAll id | .commit id _ | .fetchedCount id | .subscribe id _ | .poll id _ _
  | .commitClient id _ | .closeClient id | .calls id | .callCount id | .failCommits id _
  | .failSubscribes id _ | .feed id _ => some id
  | .ack _ | .showMessage _ | .cancel _ | .advance _ | .append _ _ _ | .enqueue _ | .flush | .size _
  | .committed _ _ | .failPolls _ => none

/-- What a step may lack. -/
inductive Lack
  /-- No instance was ever given the name. -/
  | instanceUnknown
  /-- No message was ever given the name. -/
  | messageUnknown
  /-- The instance was let go. -/
  | instanceDropped
  /-- The application does not have the channel. -/
  | channelMissing
  deriving DecidableEq, Repr

inductive Answer
  | lack (lack : Lack)
  | reply (reply : Reply)
  /-- The answers of a burst, or of receiving until nothing is left. -/
  | list (answers : List Answer)
  /-- How many of many messages were accepted, found the channel full, or found it closed or
  missing. -/
  | tally (accepted full closed missing : Nat)
  | acked (result : Except Fault Unit) (isAcked : Bool)
  | message (message : Message)
  | number (n : Option Int)
  /-- The outcome of a poll and the milliseconds that it took. -/
  | polled (result : Except Fault (Option Record)) (waited : Nat)

/-- The answer to a step with the notes that were left meanwhile. -/
structure Response where
  answer : Answer
  notes : List Note

end TopicBus.Session
