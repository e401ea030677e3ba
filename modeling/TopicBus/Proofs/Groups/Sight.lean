import TopicBus.Proofs.Bus.Records

/-!
# What a group sees of a bus

A group sees everything of a bus but the commits of other groups, and of the consumers and
clients only those that are in it. What its own consumers and clients do depends on no more than
that, and neither does anything that is done to publishers, to the registry or to the clock.
-/

namespace TopicBus

/-! ## The broker -/

namespace Broker

/-- The broker without the commits of other groups. -/
def seenBy (broker : Broker) (group : String) : Broker :=
  { broker with commits := broker.commits.filter fun commit => commit.group = group }

@[simp]
theorem committed?_seenBy (broker : Broker) (group topic : String) :
    (broker.seenBy group).committed? group topic = broker.committed? group topic := by
  have same : (broker.commits.filter fun commit => commit.group = group).filter
      (fun commit => commit.group = group ∧ commit.token.topic = topic) =
      broker.commits.filter fun commit => commit.group = group ∧ commit.token.topic = topic := by
    rw [List.filter_filter]
    apply List.filter_congr
    intro commit _
    by_cases own : commit.group = group
    · simp [own]
    · simp [own]
  simp only [committed?, seenBy, same]

@[simp]
theorem seenBy_seenBy (broker : Broker) (group : String) :
    (broker.seenBy group).seenBy group = broker.seenBy group := by
  simp [seenBy, List.filter_filter]

/-- A group sees its own commits. -/
theorem seenBy_commit (broker : Broker) (group : String) (token : Token) :
    (broker.commit group token).seenBy group = (broker.seenBy group).commit group token := by
  simp [seenBy, commit]

@[simp]
theorem seenBy_notify (broker : Broker) (group : String) :
    broker.notify.seenBy group = (broker.seenBy group).notify :=
  rfl

theorem seenBy_commit_of_ne {group other : String} (different : other ≠ group) (broker : Broker)
    (token : Token) : (broker.commit other token).seenBy group = broker.seenBy group := by
  simp [seenBy, commit, different]

end Broker

/-! ## Clients and sources in the group -/

variable {group : String}

namespace Client

variable {client : Client}

theorem next_seenBy (inGroup : client.group = some group) (broker : Broker) :
    client.next (broker.seenBy group) = client.next broker := by
  have committed (topic : String) :
      client.committed? (broker.seenBy group) topic = client.committed? broker topic := by
    simp [committed?, inGroup]
  have starting (topic : String) :
      client.startPosition (broker.seenBy group) topic = client.startPosition broker topic := by
    simp only [startPosition, committed]
    rfl
  have going (topic : String) :
      client.nextPosition (broker.seenBy group) topic = client.nextPosition broker topic := by
    simp only [nextPosition, starting]
  simp only [next, going]
  rfl

theorem commit_seenBy (inGroup : client.group = some group) (broker : Broker) (token : Token) :
    client.commit (broker.seenBy group) token =
      ((client.commit broker token).1, (client.commit broker token).2.seenBy group) := by
  simp [commit, inGroup, Broker.seenBy_commit]

end Client

namespace Source

variable {source : Source}

theorem poll_seenBy (inGroup : source.group? = some group) (broker : Broker) :
    source.poll (broker.seenBy group) = source.poll broker := by
  cases source with
  | memory client =>
      have member : client.group = some group := inGroup
      have same := Client.next_seenBy member broker
      simp only [poll, same]
  | scripted script => cases inGroup
  | remote other => cases inGroup

theorem commit_seenBy (inGroup : source.group? = some group) (broker : Broker) (token : Token) :
    source.commit (broker.seenBy group) token =
      ((source.commit broker token).1, (source.commit broker token).2.1,
        (source.commit broker token).2.2.seenBy group) := by
  rw [commit_of_group inGroup, commit_of_group inGroup, Broker.seenBy_commit]

/-- A commit of somebody else is not seen. -/
theorem commit_unseen (outside : source.group? ≠ some group) (broker : Broker) (token : Token) :
    (source.commit broker token).2.2.seenBy group = broker.seenBy group := by
  cases grouped : source.group? with
  | none => rw [commit_of_no_group grouped]
  | some other =>
      have different : other ≠ group := by
        intro same
        rw [grouped, same] at outside
        exact outside rfl
      rw [commit_of_group grouped]
      exact Broker.seenBy_commit_of_ne different broker token

end Source

/-! ## Consumers -/

namespace Consumer

variable {consumer : Consumer}

theorem commit_seenBy (inGroup : consumer.source.group? = some group) (broker : Broker)
    (token : Token) :
    consumer.commit (broker.seenBy group) token =
      ((consumer.commit broker token).1, (consumer.commit broker token).2.1,
        (consumer.commit broker token).2.2.seenBy group) := by
  have same := Source.commit_seenBy inGroup broker token
  simp only [commit, same]

theorem ack?_seenBy (inGroup : consumer.source.group? = some group) (broker : Broker) (n : Nat) :
    consumer.ack? (broker.seenBy group) n =
      (consumer.ack? broker n).map fun done => (done.1, done.2.1, done.2.2.seenBy group) := by
  cases acking : consumer.ack? broker n with
  | none => rw [ack?_eq_none_iff.mpr (ack?_eq_none_iff.mp acking), Option.map_none]
  | some done =>
      obtain ⟨result, after, brokerAfter⟩ := done
      have seen {token : Token}
          (committing : consumer.commit broker token = (result, after, brokerAfter)) :
          consumer.commit (broker.seenBy group) token =
            (result, after, brokerAfter.seenBy group) := by
        rw [commit_seenBy inGroup, committing]
      cases ack?_acking acking with
      | again found isAcked => exact ack?_again found isAcked _
      | unmade found unacked missing => exact ack?_unmade found unacked missing _
      | failed found unacked carried committing =>
          exact ack?_failed found unacked carried (seen committing)
      | marked found unacked carried committing =>
          apply ack?_marked found unacked carried
          rw [commit_seenBy inGroup, committing]

theorem loopStep?_seenBy (inGroup : consumer.source.group? = some group) (now : Nat)
    (cancelled : Bool) (broker : Broker) :
    consumer.loopStep? now cancelled (broker.seenBy group) =
      consumer.loopStep? now cancelled broker := by
  have awaiting (source : Source) :
      source.awaited (broker.seenBy group) = source.awaited broker := by
    cases source <;> rfl
  have looking : consumer.look now (broker.seenBy group) = consumer.look now broker := by
    simp only [look, Source.poll_seenBy inGroup]
  simp only [loopStep?, looking, awaiting]
  rfl

/-- A consumer outside of every group, of which a group sees nothing. -/
def stranger : Consumer :=
  .create ⟨.unit, ""⟩ (.remote none) .default ""

/-- The consumer as a group sees it. -/
def seenBy (group : String) (consumer : Consumer) : Consumer :=
  if consumer.source.group? = some group then consumer else stranger

theorem seenBy_of_inGroup (inGroup : consumer.source.group? = some group) :
    consumer.seenBy group = consumer :=
  if_pos inGroup

theorem seenBy_of_outside (outside : consumer.source.group? ≠ some group) :
    consumer.seenBy group = stranger :=
  if_neg outside

/-- Who is in a group is seen to be in it, and nobody else. -/
theorem inGroup_seenBy_iff :
    (consumer.seenBy group).source.group? = some group ↔ consumer.source.group? = some group := by
  by_cases inGroup : consumer.source.group? = some group
  · rw [seenBy_of_inGroup inGroup]
  · rw [seenBy_of_outside inGroup]
    simp only [inGroup, iff_false]
    simp [stranger, create, Source.group?]

@[simp]
theorem seenBy_seenBy (group : String) (consumer : Consumer) :
    (consumer.seenBy group).seenBy group = consumer.seenBy group := by
  by_cases inGroup : consumer.source.group? = some group
  · rw [seenBy_of_inGroup inGroup, seenBy_of_inGroup inGroup]
  · have outside : (consumer.seenBy group).source.group? ≠ some group := by
      rwa [ne_eq, inGroup_seenBy_iff]
    rw [seenBy_of_outside outside, seenBy_of_outside inGroup]

end Consumer

namespace Client

/-- The client as a group sees it. -/
def seenBy (group : String) (client : Client) : Client :=
  if client.group = some group then client else .ofSettings .default

variable {client : Client}

theorem seenBy_of_inGroup (inGroup : client.group = some group) : client.seenBy group = client :=
  if_pos inGroup

theorem seenBy_of_outside (outside : client.group ≠ some group) :
    client.seenBy group = .ofSettings .default :=
  if_neg outside

theorem inGroup_seenBy_iff :
    (client.seenBy group).group = some group ↔ client.group = some group := by
  by_cases inGroup : client.group = some group
  · rw [seenBy_of_inGroup inGroup]
  · rw [seenBy_of_outside inGroup]
    simp [ofSettings, Settings.Consumer.default, inGroup]

@[simp]
theorem seenBy_seenBy (group : String) (client : Client) :
    (client.seenBy group).seenBy group = client.seenBy group := by
  by_cases inGroup : client.group = some group
  · rw [seenBy_of_inGroup inGroup, seenBy_of_inGroup inGroup]
  · have outside : (client.seenBy group).group ≠ some group := by
      rwa [ne_eq, inGroup_seenBy_iff]
    rw [seenBy_of_outside outside, seenBy_of_outside inGroup]

end Client

/-! ## Publishers -/

/-- A sink looks at no commit. -/
theorem Sink.enqueue_seenBy (sink : Sink) (now : Nat) (broker : Broker) (outbound : Outbound) :
    sink.enqueue now (broker.seenBy group) outbound =
      ((sink.enqueue now broker outbound).1, (sink.enqueue now broker outbound).2.1,
        (sink.enqueue now broker outbound).2.2.seenBy group) := by
  cases sink <;> rfl

namespace Publisher

variable (publisher : Publisher) (now : Nat) (broker : Broker)

private theorem publish_seenBy (emptying : Bool) (message : Message) :
    publisher.publish now emptying (broker.seenBy group) message =
      ((publisher.publish now emptying broker message).1,
        (publisher.publish now emptying broker message).2.1.seenBy group,
        (publisher.publish now emptying broker message).2.2) := by
  unfold publish
  cases message.value.encode with
  | error flaw => rfl
  | ok payload =>
      simp only [Sink.enqueue_seenBy]
      cases publisher.sink.enqueue now broker (publisher.outbound message payload) with
      | mk enqueued rest =>
          cases enqueued with
          | taken report => rfl
          | refused fault => rfl
          | crashed => rfl

theorem pumpStep?_seenBy (cancelled : Bool) :
    publisher.pumpStep? now cancelled (broker.seenBy group) =
      (publisher.pumpStep? now cancelled broker).map fun moved =>
        (moved.1, moved.2.1.seenBy group, moved.2.2) := by
  unfold pumpStep?
  cases publisher.pump with
  | receiving =>
      cases cancelled with
      | true => rfl
      | false =>
          cases publisher.outbox.pop? with
          | some popped => simp [publish_seenBy]
          | none =>
              cases publisher.outbox.awaitsMore <;> rfl
  | handing report emptying => simp [Function.comp_def]
  | emptying =>
      cases publisher.outbox.pop? with
      | some popped => simp [publish_seenBy]
      | none => rfl
  | flushing deadline released =>
      cases released with
      | true => rfl
      | false =>
          by_cases due : deadline ≤ now
          · simp [due]
          · simp [due]
  | unstarted | missing | finished result | gone => rfl

end Publisher

end TopicBus
