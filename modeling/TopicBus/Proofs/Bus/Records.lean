import TopicBus.Proofs.Bus.Acknowledgement
import TopicBus.Proofs.Bus.Effects
import TopicBus.Proofs.Bus.Loop
import TopicBus.Proofs.Bus.Pump

/-!
# What becomes of the broker

An action stores at most one record or one commit, or it makes polls fail; it never takes
anything back. So the log of a topic only grows at its end, and the entries that were stored
along a run are the records of the broker in their order, each with the number of records of its
topic before it as its offset.
-/

namespace TopicBus

/-- A change of a broker, with the entries that it stores. -/
inductive Broker.Changes (before : Broker) : List Entry → Broker → Prop
  | same : Changes before [] before
  | appended (topic : String) (record : Stored) :
      Changes before [⟨topic, before.size topic, record⟩] (before.append topic record)
  | committed (group : String) (token : Token) : Changes before [] (before.commit group token)
  | pollsFailed (reason : String) : Changes before [] (before.failPolls reason)
  | notified (owes : 0 < before.owed) : Changes before [] before.notify

namespace Publisher

@[simp]
theorem appendedBy_same (broker : Broker) : appendedBy broker broker = [] := by
  simp [appendedBy]

@[simp]
theorem appendedBy_append (broker : Broker) (topic : String) (record : Stored) :
    appendedBy broker (broker.append topic record) =
      [.appended topic (broker.size topic) record] := by
  simp [appendedBy, Broker.append]

end Publisher

theorem Sink.enqueue_broker (sink : Sink) (now : Nat) (broker : Broker) (outbound : Outbound) :
    (sink.enqueue now broker outbound).2.2 = broker ∨
      (sink.enqueue now broker outbound).2.2 =
        broker.append outbound.topic (.ofOutbound outbound) := by
  cases sink with
  | memory => exact .inr rfl
  | scripted plan calls => exact .inl rfl
  | remote inTime pending => exact .inl rfl

namespace Publisher

variable {publisher after : Publisher} {now : Nat} {broker brokerAfter : Broker}
  {happenings : List Happening}

private theorem enqueue_changes {message : Message} {payload : Text.Bytes} {enqueued : Enqueued}
    {sink : Sink} {stored : Broker}
    (enqueuing : publisher.sink.enqueue now broker (publisher.outbound message payload) =
      (enqueued, sink, stored)) :
    broker.Changes (entriesOf (appendedBy broker stored)) stored := by
  have stores := publisher.sink.enqueue_broker now broker (publisher.outbound message payload)
  rw [enqueuing] at stores
  rcases stores with rfl | rfl
  · rw [appendedBy_same]
    exact .same
  · rw [appendedBy_append]
    exact .appended _ _

theorem Published.stores {emptying : Bool} {message : Message}
    (published : publisher.Published now emptying broker message happenings after brokerAfter) :
    broker.Changes (entriesOf happenings) brokerAfter := by
  cases published with
  | unencodable encoding => exact .same
  | @refused _ fault _ _ encoding enqueuing =>
      have silent : entriesOf [.noted (.refused publisher.topic.name fault)] = [] := rfl
      rw [entriesOf_append, silent, List.append_nil]
      exact enqueue_changes enqueuing
  | crashed encoding enqueuing => exact enqueue_changes enqueuing
  | taken encoding enqueuing => exact enqueue_changes enqueuing

theorem PumpStep.stores {cancelled : Bool}
    (moved : publisher.PumpStep now cancelled broker happenings after brokerAfter) :
    broker.Changes (entriesOf happenings) brokerAfter := by
  cases moved with
  | stopped receiving => exact .same
  | published emptying between shape publishing => exact publishing.stores
  | handed reports notes handing =>
      rw [entriesOf_notes]
      exact .same
  | emptied emptying empty => exact .same
  | flushed notes flushing =>
      rw [entriesOf_notes]
      exact .same

theorem CloseStep.entries (moved : publisher.CloseStep happenings after) :
    entriesOf happenings = [] := by
  cases moved with
  | flushOverdue notes flushing => exact entriesOf_notes notes
  | pumpFinished awaiting finished => rfl
  | pumpGone awaiting gone => rfl
  | pumpOverdue notes awaiting => exact entriesOf_notes notes
  | settled notes awaiting => exact entriesOf_notes notes

theorem Changes.stores {system : System} {n : Nat} {action : Action} {reply : Reply}
    (changed : publisher.Changes system n action reply happenings after brokerAfter) :
    system.broker.Changes (entriesOf happenings) brokerAfter := by
  cases changed with
  | opened opens | sent sameKind taken | reserved given | filled sameKind placed | outboxDropped
  | closeBegun isHeld first | dropped | callsTaken scripted | flushReleased => exact .same
  | pumped moved => exact (pumpStep?_step moved).stores
  | drained moved =>
      obtain ⟨reports, drain, notes, _, rfl⟩ := drainStep?_reports moved
      rw [entriesOf_notes]
      exact .same
  | closeStepped moved =>
      rw [(closeStep?_step moved).entries]
      exact .same

end Publisher

/-! ## Consumers and clients -/

/-- The group for which a source commits positions in the broker. -/
def Source.group? : Source → Option String
  | .memory client => client.group
  | .scripted _ | .remote _ => none

theorem Source.commit_of_group {source : Source} {group : String}
    (grouped : source.group? = some group)
    (broker : Broker) (token : Token) :
    source.commit broker token = (.ok (), source, broker.commit group token) := by
  cases source with
  | memory client =>
      have inGroup : client.group = some group := grouped
      simp only [commit, Client.commit, inGroup]
      rfl
  | scripted script => cases grouped
  | remote group => cases grouped

theorem Source.commit_of_no_group {source : Source} (ungrouped : source.group? = none)
    (broker : Broker) (token : Token) : (source.commit broker token).2.2 = broker := by
  cases source with
  | memory client =>
      have inNone : client.group = none := ungrouped
      simp only [commit, Client.commit, inNone]
  | scripted script =>
      simp only [commit]
      split
      · rfl
      · rfl
  | remote group => rfl

namespace Consumer

variable {consumer after : Consumer} {broker brokerAfter : Broker} {happenings : List Happening}

theorem commit_broker {token : Token} {result : Except Fault Unit}
    (done : consumer.commit broker token = (result, after, brokerAfter)) :
    broker.Changes [] brokerAfter := by
  have committing : brokerAfter = (consumer.source.commit broker token).2.2 := by
    cases done
    rfl
  cases grouped : consumer.source.group? with
  | none =>
      rw [committing, Source.commit_of_no_group grouped]
      exact .same
  | some group =>
      rw [committing, Source.commit_of_group grouped]
      exact .committed group token

theorem ack?_broker {receipt : Nat} {result : Except Fault Unit}
    (done : consumer.ack? broker receipt = some (result, after, brokerAfter)) :
    broker.Changes [] brokerAfter := by
  cases ack?_acking done with
  | again found isAcked => exact .same
  | unmade found unacked missing => exact .same
  | failed found unacked carried committing | marked found unacked carried committing =>
      exact commit_broker committing

theorem loopStep?_entries {now : Nat} {cancelled : Bool}
    (moved : consumer.loopStep? now cancelled broker = some (after, happenings)) :
    entriesOf happenings = [] := by
  have handled :
      ∀ (fetching : Consumer) (record : Record), entriesOf (fetching.handle record).2 = [] := by
    intro fetching record
    unfold handle
    split
    · rfl
    · split
      · rfl
      · rfl
  cases loopStep?_step moved with
  | ended reason isRunning => rfl
  | turned turns goesOn => rfl
  | asked goesOn asking =>
      unfold look
      cases consumer.source.poll broker with
      | mk polled source =>
          cases polled with
          | record record => exact handled _ record
          | nothing | idle | crashed => rfl
          | failed fault => rfl
  | put holds hasReceiver hasRoom goesOn => rfl

theorem Changes.stores {system : System} {n : Nat} {action : Action} {reply : Reply}
    (changed : consumer.Changes system n action reply happenings after brokerAfter) :
    system.broker.Changes (entriesOf happenings) brokerAfter := by
  cases changed with
  | opened opens => exact .same
  | received canReceive taken => exact .same
  | inboxClosed canReceive | inboxDropped => exact .same
  | closeBegun isHeld first => exact .same
  | dropped => exact .same
  | committed done => exact commit_broker done
  | acked done => exact ack?_broker done
  | revised scripted => exact .same
  | callsTaken scripted => exact .same
  | looped moved =>
      rw [loopStep?_entries moved]
      exact .same
  | closeStepped moved => exact .same

end Consumer

theorem Client.Changes.stores {system : System} {n : Nat} {client after : Client} {action : Action}
    {reply : Reply} {brokerAfter : Broker}
    (changed : client.Changes system n action reply after brokerAfter) :
    system.broker.Changes [] brokerAfter := by
  cases changed with
  | subscribed topic => exact .same
  | fetched => exact .same
  | committed token =>
      unfold Client.commit
      cases client.group with
      | none => exact .same
      | some group => exact .committed group token
  | closed => exact .same

/-! ## Entries of a run -/

/-- The entries that some events have stored. -/
def storedIn (events : List Event) : List Entry :=
  entriesOf (events.map Event.happening)

@[simp]
theorem storedIn_append (first second : List Event) :
    storedIn (first ++ second) = storedIn first ++ storedIn second := by
  simp [storedIn]

@[simp]
theorem storedIn_eventsOf (author : Author) (happenings : List Happening) :
    storedIn (System.eventsOf author happenings) = entriesOf happenings := by
  simp [storedIn, System.eventsOf, Function.comp_def]

namespace System

/-- An action changes the broker by the entries among its events. -/
theorem Effect.stores {system after : System} {action : Action} {reply : Reply}
    {events : List Event} (effect : system.Effect action reply after events) :
    system.broker.Changes (storedIn events) after.broker := by
  cases effect with
  | idle unsent unmoved => exact .same
  | publisher found changed =>
      rw [storedIn_eventsOf]
      exact changed.stores
  | consumer found changed =>
      rw [storedIn_eventsOf]
      exact changed.stores
  | client found changed => exact changed.stores
  | registered kind name replied => exact .same
  | publisherAdded making => exact .same
  | consumerAdded making => exact .same
  | clientAdded settings => exact .same
  | appended topic key payload => exact .appended topic _
  | enqueued outbound => exact .appended outbound.topic _
  | pollsFailed reason => exact .pollsFailed reason
  | notified owes => exact .notified owes
  | scopeCancelled scope => exact .same
  | passed milliseconds => exact .same

end System

/-- A record of a log is found where it was in the longer log. -/
theorem Broker.found_of_grown {before after : Broker} {topic : String} {offset : Nat}
    {stored : Stored} (grown : before.log topic <+: after.log topic)
    (found : (before.log topic)[offset]? = some stored) :
    (after.log topic)[offset]? = some stored := by
  obtain ⟨inside, same⟩ := List.getElem?_eq_some_iff.mp found
  rw [← same]
  exact List.prefix_iff_getElem?.mp grown offset inside

namespace Broker.Changes

variable {before after : Broker} {entries : List Entry}

theorem appended_eq (changes : before.Changes entries after) :
    after.appended = before.appended ++ entries.map Entry.stored := by
  cases changes with
  | same => simp
  | appended topic record => rfl
  | committed group token => simp [commit]
  | pollsFailed reason => simp [failPolls]
  | notified owes => simp [notify]

theorem log_grows (changes : before.Changes entries after) (topic : String) :
    before.log topic <+: after.log topic := by
  cases changes with
  | same => exact List.prefix_rfl
  | appended other record =>
      rw [log_append]
      split
      · exact List.prefix_append _ _
      · exact List.prefix_rfl
  | committed group token => exact List.prefix_rfl
  | pollsFailed reason => exact List.prefix_rfl
  | notified owes => exact List.prefix_rfl

/-- An entry is put at the end of the log of its topic. -/
theorem entry_stored (changes : before.Changes entries after) {entry : Entry}
    (member : entry ∈ entries) :
    entry.offset = before.size entry.topic ∧
      (after.log entry.topic)[entry.offset]? = some entry.record := by
  cases changes with
  | same => cases member
  | appended topic record =>
      cases List.mem_singleton.mp member
      exact ⟨rfl, log_append_size _ _ _⟩
  | committed group token => cases member
  | pollsFailed reason => cases member
  | notified owes => cases member

theorem length_le_one (changes : before.Changes entries after) : entries.length ≤ 1 := by
  cases changes with
  | same => simp
  | appended topic record => simp
  | committed group token => simp
  | pollsFailed reason => simp
  | notified owes => simp

end Broker.Changes

namespace System

variable (system : System)

theorem next_broker (action : Action) :
    system.broker.Changes (storedIn (system.act action).2.2) (system.next action).broker :=
  (system.act_effect action).stores

theorem log_grows_after (actions : List Action) (topic : String) :
    system.broker.log topic <+: (system.after actions).broker.log topic := by
  apply after_of_next (fun later => system.broker.log topic <+: later.broker.log topic)
  · intro later action grown
    exact grown.trans ((later.next_broker action).log_grows topic)
  · exact List.prefix_rfl

/-- The records of the broker are those that were there and the entries of the run, in order. -/
theorem appended_after (actions : List Action) :
    (system.after actions).broker.appended =
      system.broker.appended ++ (storedIn (system.events actions)).map Entry.stored := by
  induction actions generalizing system with
  | nil => simp [storedIn]
  | cons action rest inductionHypothesis =>
      rw [after_cons, inductionHypothesis, (system.next_broker action).appended_eq, events_cons]
      simp

/-- An entry of a run is found in the log at its offset ever after. -/
theorem entry_found (actions : List Action) {entry : Entry}
    (member : entry ∈ storedIn (system.events actions)) :
    system.broker.size entry.topic ≤ entry.offset ∧
      ((system.after actions).broker.log entry.topic)[entry.offset]? = some entry.record := by
  induction actions generalizing system with
  | nil => cases member
  | cons action rest inductionHypothesis =>
      have changes := system.next_broker action
      rw [events_cons, storedIn_append] at member
      rcases List.mem_append.mp member with now | later
      · obtain ⟨offset, stored⟩ := changes.entry_stored now
        have kept := (system.next action).log_grows_after rest entry.topic
        exact ⟨Nat.le_of_eq offset.symm, Broker.found_of_grown kept stored⟩
      · obtain ⟨after, stored⟩ := inductionHypothesis (system.next action) later
        exact ⟨Nat.le_trans (changes.log_grows entry.topic).length_le after, stored⟩

theorem entries_increase (actions : List Action) :
    (storedIn (system.events actions)).Pairwise fun earlier later =>
      earlier.topic = later.topic → earlier.offset < later.offset := by
  induction actions generalizing system with
  | nil => exact .nil
  | cons action rest inductionHypothesis =>
      have changes := system.next_broker action
      rw [events_cons, storedIn_append, List.pairwise_append]
      refine ⟨?_, inductionHypothesis (system.next action), ?_⟩
      · have few := changes.length_le_one
        rcases shape : storedIn (system.act action).2.2 with _ | ⟨entry, _ | ⟨second, others⟩⟩
        · exact .nil
        · exact List.pairwise_singleton _ _
        · rw [shape] at few
          simp at few
      · intro earlier here later there sameTopic
        obtain ⟨_, stored⟩ := changes.entry_stored here
        obtain ⟨beyond, _⟩ := (system.next action).entry_found rest there
        have inside := (List.getElem?_eq_some_iff.mp stored).1
        rw [← sameTopic] at beyond
        exact Nat.lt_of_lt_of_le inside beyond

end System

end TopicBus
