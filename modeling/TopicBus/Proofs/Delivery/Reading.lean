import TopicBus.Proofs.Bus.Effects
import TopicBus.Proofs.Bus.Loop
import TopicBus.Proofs.Delivery.Messages

/-!
# How a consumer reads its topic

A consumer of the broker inside the process keeps a position in the log of its topic. The
invariant `Reads` ties the position to what was received, what waits in the inbox and what the
loop holds: together they are the messages between the start and the position. Every change of
the consumer keeps it, whatever is appended or committed in between.
-/

namespace TopicBus

/-! ## Starting -/

/-- The offset at which a consumer with the settings starts on a topic, if it may start at all. -/
def Broker.start? (broker : Broker) (settings : Settings.Consumer) (topic : String) : Option Int :=
  match settings.group.bind fun group => broker.committed? group topic with
  | some offset => some offset
  | none =>
      match settings.startPolicy with
      | none | some .earliest => some 0
      | some .latest => some (broker.size topic)
      | some .none => none

/-- A client with the group and the policy of the settings starts where they say. -/
theorem Client.startPosition_eq {client : Client} {settings : Settings.Consumer}
    (group : client.group = settings.group)
    (policy : client.policy = settings.startPolicy.getD .earliest) (broker : Broker)
    (topic : String) :
    client.startPosition broker topic =
      match broker.start? settings topic with
      | some start => .ok start
      | none => .error (.noCommittedOffset topic) := by
  unfold startPosition Broker.start? committed?
  rw [group, policy]
  cases settings.group.bind fun group => broker.committed? group topic with
  | some offset => rfl
  | none =>
      cases settings.startPolicy with
      | none => rfl
      | some policy =>
          cases policy with
          | earliest => rfl
          | latest => rfl
          | none => rfl

theorem Client.recordAt?_eq_some_iff {broker : Broker} {topic : String} {position : Int}
    {record : Record} :
    recordAt? broker topic position = some record ↔
      ∃ (offset : Nat) (stored : Stored), position = offset ∧
        (broker.log topic)[offset]? = some stored ∧
          stored.toRecord ⟨topic, 0, offset⟩ = record := by
  unfold recordAt?
  split
  · rename_i negative
    constructor
    · intro found
      cases found
    · rintro ⟨offset, stored, rfl, _⟩
      omega
  · rename_i whole
    constructor
    · intro found
      obtain ⟨stored, there, rfl⟩ := Option.map_eq_some_iff.mp found
      have same : ((position.toNat : Nat) : Int) = position := by omega
      refine ⟨position.toNat, stored, same.symm, there, ?_⟩
      rw [same]
    · rintro ⟨offset, stored, rfl, there, rfl⟩
      simp [there]

/-! ## Polls -/

/-- The loop after a record, with the message made from it, if there is one. -/
def PollLoop.afterRecord : Option Message → PollLoop
  | none => .polling
  | some message => .holding message

@[simp]
theorem PollLoop.held?_afterRecord (made : Option Message) : (afterRecord made).held? = made := by
  cases made <;> rfl

@[simp]
theorem PollLoop.isRunning_afterRecord (made : Option Message) : (afterRecord made).isRunning := by
  cases made <;> rfl

/-- The client after a record. -/
def Client.passed (client : Client) (offset : Nat) : Client :=
  { client with position := some (offset + 1), fetched := client.fetched + 1 }

/-- The client at a position. -/
def Client.placed (client : Client) (position : Int) : Client :=
  { client with position := some position }

namespace Consumer

/-- What the application has received. -/
def received (consumer : Consumer) : List Message :=
  consumer.receipts.map Receipt.message

/-- A record of the log is held as its message, or it is skipped with a note. -/
theorem handle_eq (consumer : Consumer) (offset : Nat) (stored : Stored) :
    consumer.handle (stored.toRecord ⟨consumer.topic.name, 0, offset⟩) =
      ({ consumer with loop := .afterRecord (consumer.topic.message? offset stored) },
        .fetched (stored.toRecord ⟨consumer.topic.name, 0, offset⟩) ::
          (consumer.topic.skipNote? offset stored).toList.map .noted) := by
  unfold handle Topic.message? Topic.skipNote?
  cases there : stored.payload with
  | none => simp [Stored.toRecord, there, PollLoop.afterRecord]
  | some payload =>
      cases decoding : Payload.decode consumer.topic.kind payload with
      | error flaw => simp [Stored.toRecord, there, decoding, PollLoop.afterRecord]
      | ok value => simp [Stored.toRecord, there, decoding, PollLoop.afterRecord]

/-- What a look of a subscribed client can come to. -/
inductive PollOf (consumer : Consumer) (client : Client) (now : Nat) (broker : Broker) :
    Consumer → List Happening → Prop
  /-- Every poll fails. -/
  | broken {reason : String} (failure : broker.failure? = some reason) :
      PollOf consumer client now broker (consumer.endLoop .ended)
        [.noted (.pollFailed consumer.topic.name (.transport (.other reason)))]
  /-- There is no place to start from. -/
  | unplaced {fault : TransportFault} (works : broker.failure? = none)
      (nowhere : client.nextPosition broker consumer.topic.name = .error fault) :
      PollOf consumer client now broker (consumer.endLoop .ended)
        [.noted (.pollFailed consumer.topic.name (.transport fault))]
  | idle {position : Int} (works : broker.failure? = none)
      (next : client.nextPosition broker consumer.topic.name = .ok position)
      (nothing : Client.recordAt? broker consumer.topic.name position = none) :
      PollOf consumer client now broker
        { consumer with
          source := .memory (client.placed position)
          loop := consumer.loop.afterNothing (now + consumer.pollTimeout) } []
  | fetched {offset : Nat} {stored : Stored} (works : broker.failure? = none)
      (next : client.nextPosition broker consumer.topic.name = .ok offset)
      (found : (broker.log consumer.topic.name)[offset]? = some stored) :
      PollOf consumer client now broker
        { consumer with
          source := .memory (client.passed offset)
          loop := .afterRecord (consumer.topic.message? offset stored) }
        (.fetched (stored.toRecord ⟨consumer.topic.name, 0, offset⟩) ::
          (consumer.topic.skipNote? offset stored).toList.map .noted)

/-- A look of a subscribed client comes to one of these. -/
theorem look_memory {consumer : Consumer} {client : Client} (now : Nat) (broker : Broker)
    (memory : consumer.source = .memory client)
    (subscribed : client.topic = some consumer.topic.name) :
    consumer.PollOf client now broker (consumer.look now broker).1
      (consumer.look now broker).2 := by
  have same : { consumer with source := .memory client } = consumer := by
    rw [← memory]
  cases failure : broker.failure? with
  | some reason =>
      have next : client.next broker = (.error (.other reason), client) := by
        simp only [Client.next, failure]
      simp only [look, Source.poll, memory, next]
      rw [same]
      exact .broken failure
  | none =>
      cases placing : client.nextPosition broker consumer.topic.name with
      | error fault =>
          have next : client.next broker = (.error fault, client) := by
            simp only [Client.next, failure, subscribed, placing]
          simp only [look, Source.poll, memory, next]
          rw [same]
          exact .unplaced failure placing
      | ok position =>
          cases reading : Client.recordAt? broker consumer.topic.name position with
          | none =>
              have next : client.next broker = (.ok none, client.placed position) := by
                simp only [Client.next, failure, subscribed, placing, reading, Client.placed]
              simp only [look, Source.poll, memory, next]
              exact .idle failure placing reading
          | some record =>
              obtain ⟨offset, stored, rfl, found, rfl⟩ := Client.recordAt?_eq_some_iff.mp reading
              have next : client.next broker =
                  (.ok (some (stored.toRecord ⟨consumer.topic.name, 0, offset⟩)),
                    client.passed offset) := by
                simp only [Client.next, failure, subscribed, placing, reading, Client.passed]
              have handled :=
                handle_eq { consumer with source := .memory (client.passed offset) } offset stored
              simp only [look, Source.poll, memory, next]
              rw [handled]
              exact .fetched failure placing found

theorem PollOf.goesOn {consumer after : Consumer} {client : Client} {now : Nat} {broker : Broker}
    {happenings : List Happening} {position : Int}
    (polled : consumer.PollOf client now broker after happenings)
    (works : broker.failure? = none)
    (placed : client.nextPosition broker consumer.topic.name = .ok position) :
    after.loop.isRunning = true ∧ after.inbox = consumer.inbox ∧
      after.stopped = consumer.stopped ∧ after.scope = consumer.scope := by
  cases polled with
  | broken failure =>
      rw [works] at failure
      cases failure
  | unplaced _ nowhere =>
      rw [placed] at nowhere
      cases nowhere
  | idle _ next nothing => exact ⟨PollLoop.isRunning_afterNothing _ _, rfl, rfl, rfl⟩
  | fetched _ next found => exact ⟨PollLoop.isRunning_afterRecord _, rfl, rfl, rfl⟩

/-! ## The position and the messages before it -/

/-- A consumer that has not read anything yet. -/
structure IsUntouched (consumer : Consumer) (client : Client) : Prop where
  unplaced : client.position = none
  nothing : consumer.received ++ consumer.inbox.queue = []
  holdsNothing : consumer.loop.held? = none

/-- A consumer has started at one offset and has come to another one. Of the messages in between
it has those that were received, those in its inbox and the one that its loop holds; nothing is
missing as long as the loop goes on and somebody receives. -/
structure Reads (consumer : Consumer) (client : Client) (broker : Broker) (start position : Int) :
    Prop where
  isOpened : consumer.loop ≠ .unstarted
  placed : client.position = some position
  inside : position = start ∨
    (0 ≤ start ∧ start ≤ position ∧ position ≤ broker.size consumer.topic.name)
  delivered : consumer.received ++ consumer.inbox.queue <+:
    broker.messagesBetween consumer.topic start position
  complete : consumer.loop.isRunning = true → consumer.inbox.hasReceiver = true →
    consumer.received ++ consumer.inbox.queue ++ consumer.loop.held?.toList =
      broker.messagesBetween consumer.topic start position

section Reads

variable {consumer after : Consumer} {client : Client} {broker brokerAfter : Broker}
  {start position : Int}

/-- The first place that is settled is the start, with nothing before it. -/
theorem IsUntouched.reads (untouched : consumer.IsUntouched client)
    (isRunning : consumer.loop.isRunning = true) :
    consumer.Reads (client.placed start) broker start start where
  isOpened := PollLoop.ne_unstarted_of_isRunning isRunning
  placed := rfl
  inside := .inl rfl
  delivered := by
    rw [untouched.nothing]
    exact List.nil_prefix
  complete _ _ := by
    rw [untouched.nothing, untouched.holdsNothing]
    simp

theorem IsUntouched.received_eq_nil (untouched : consumer.IsUntouched client) :
    consumer.received = [] :=
  (List.append_eq_nil_iff.mp untouched.nothing).1

namespace Reads

theorem received_isPrefix (reads : consumer.Reads client broker start position) :
    consumer.received <+: broker.messagesFrom consumer.topic start :=
  ((List.prefix_append _ _).trans reads.delivered).trans
    (broker.messagesBetween_prefix consumer.topic _ _)

theorem grow (reads : consumer.Reads client broker start position)
    (grown : broker.log consumer.topic.name <+: brokerAfter.log consumer.topic.name) :
    consumer.Reads client brokerAfter start position := by
  have same : brokerAfter.messagesBetween consumer.topic start position =
      broker.messagesBetween consumer.topic start position :=
    Broker.messagesBetween_of_grown grown (reads.inside.imp_right fun within => within.2.2)
  refine ⟨reads.isOpened, reads.placed, ?_, ?_, ?_⟩
  · refine reads.inside.imp_right fun ⟨whole, begun, within⟩ => ⟨whole, begun, ?_⟩
    have longer := grown.length_le
    unfold Broker.size at within ⊢
    omega
  · rw [same]
    exact reads.delivered
  · rw [same]
    exact reads.complete

theorem endLoop {loop : PollLoop} (reads : consumer.Reads client broker start position)
    (isOpened : loop ≠ .unstarted) (isOver : loop.isRunning = false) :
    (consumer.endLoop loop).Reads client broker start position where
  isOpened := isOpened
  placed := reads.placed
  inside := reads.inside
  delivered := reads.delivered
  complete isRunning _ := by
    have running : loop.isRunning = true := isRunning
    rw [isOver] at running
    cases running

theorem put {message : Message} (reads : consumer.Reads client broker start position)
    (holds : consumer.loop = .holding message) (hasReceiver : consumer.inbox.hasReceiver = true) :
    Reads { consumer with loop := .polling, inbox := consumer.inbox.push message } client broker
      start position := by
  have whole := reads.complete (by simp [holds, PollLoop.isRunning]) hasReceiver
  simp only [holds, PollLoop.held?, Option.toList_some, List.append_assoc] at whole
  refine ⟨by simp, reads.placed, reads.inside, ?_, ?_⟩
  · simp only [received, Channel.push]
    rw [← whole]
    exact List.prefix_rfl
  · intro _ _
    simp only [received, Channel.push, PollLoop.held?, Option.toList_none, List.append_nil]
    exact whole

/-- A loop that holds nothing before and afterwards has all that it had. -/
theorem goOn {source : Source} {loop : PollLoop}
    (reads : consumer.Reads client broker start position)
    (isRunning : consumer.loop.isRunning = true) (holdsNothing : consumer.loop.held? = none)
    (goesOn : loop.isRunning = true) (stillNothing : loop.held? = none) :
    Reads { consumer with source := source, loop := loop } client broker start position where
  isOpened := PollLoop.ne_unstarted_of_isRunning goesOn
  placed := reads.placed
  inside := reads.inside
  delivered := reads.delivered
  complete _ hasReceiver := by
    have whole := reads.complete isRunning hasReceiver
    rw [holdsNothing] at whole
    rw [stillNothing]
    exact whole

/-- A poll that finds a record passes it and holds its message, if it has one. -/
theorem fetched {source : Source} {offset : Nat} {stored : Stored}
    (reads : consumer.Reads (client.placed offset) broker start offset)
    (isRunning : consumer.loop.isRunning = true) (holdsNothing : consumer.loop.held? = none)
    (found : (broker.log consumer.topic.name)[offset]? = some stored) :
    Reads
      { consumer with
        source := source
        loop := .afterRecord (consumer.topic.message? offset stored) }
      (client.passed offset) broker start (offset + 1) := by
  have inLog := (List.getElem?_eq_some_iff.mp found).1
  have begun : start ≤ offset := by
    rcases reads.inside with same | ⟨_, begun, _⟩
    · omega
    · exact begun
  have passed := Broker.messagesBetween_succ begun found
  refine ⟨?_, rfl, .inr ⟨?_, ?_, ?_⟩, ?_, ?_⟩
  · cases consumer.topic.message? offset stored <;> simp [PollLoop.afterRecord]
  · rcases reads.inside with same | ⟨whole, _⟩
    · omega
    · exact whole
  · omega
  · simp only [Broker.size]
    omega
  · rw [passed]
    exact reads.delivered.trans (List.prefix_append _ _)
  · intro _ hasReceiver
    have whole := reads.complete isRunning hasReceiver
    rw [holdsNothing, Option.toList_none, List.append_nil] at whole
    simp only [PollLoop.held?_afterRecord, passed]
    rw [← whole]
    rfl

theorem receive {message : Message} (reads : consumer.Reads client broker start position)
    (taken : consumer.receive? = some (message, after)) :
    after.Reads client broker start position := by
  obtain ⟨⟨head, inbox⟩, popped, same⟩ := Option.map_eq_some_iff.mp taken
  cases same
  obtain ⟨rest, shape, rfl⟩ := Channel.pop?_eq_some_iff.mp popped
  have same : received { consumer with
      inbox := { consumer.inbox with queue := rest },
      receipts := consumer.receipts ++ [.ofMessage message] } ++ rest =
        consumer.received ++ consumer.inbox.queue := by
    simp [received, shape]
  refine ⟨reads.isOpened, reads.placed, reads.inside, ?_, ?_⟩
  · rw [same]
    exact reads.delivered
  · rw [same]
    exact reads.complete

/-- What the application does not take any more is lost to it, and nothing else. -/
theorem shut {rest : List Message} (reads : consumer.Reads client broker start position)
    (kept : rest <+: consumer.inbox.queue) (takesRest : Bool) :
    (consumer.shut rest takesRest).Reads client broker start position where
  isOpened := reads.isOpened
  placed := reads.placed
  inside := reads.inside
  delivered := ((List.prefix_append_right_inj _).mpr kept).trans reads.delivered
  complete _ hasReceiver := by cases hasReceiver

end Reads

end Reads

end Consumer

end TopicBus
