import TopicBus.Proofs.Delivery.Fetching
import TopicBus.Proofs.Wire.Messages

/-!
# Typed topics

As long as every record goes through a publisher, a topic carries payloads of one kind. Its
registry binds the name to no other kind, so whoever has put a record there was a publisher of
that kind; what a publisher has encoded can be decoded; and the octets of keys and headers spell
what was written. So a consumer skips no record, and every message that it delivers is one that
was sent to a publisher of its kind.
-/

namespace TopicBus

theorem Broker.mem_appended_of_log {broker : Broker} {topic : String} {offset : Nat}
    {stored : Stored} (found : (broker.log topic)[offset]? = some stored) :
    (topic, stored) ∈ broker.appended := by
  obtain ⟨⟨name, record⟩, member, rfl⟩ := List.mem_map.mp (List.mem_of_getElem? found)
  obtain ⟨inBroker, sameName⟩ := List.mem_filter.mp member
  obtain rfl : name = topic := by simpa using sameName
  exact inBroker

private theorem Topic.skipNote?_of_message? {topic : Topic} {offset : Nat} {stored : Stored}
    {message : Message} (made : topic.message? offset stored = some message) :
    topic.skipNote? offset stored = none :=
  topic.skipNote?_eq_none_iff.mpr ⟨message, made⟩

namespace System

/-- The record at an offset of a topic is what a message is stored as that a publisher on the
topic has accepted along a run. -/
def IsRecordOf (system : System) (actions : List Action) (topic : Topic) (offset : Nat)
    (message : Message) : Prop :=
  ∃ m publisher stored, (system.after actions).publishers[m]? = some publisher ∧
    publisher.topic = topic ∧ message ∈ system.acceptedBy m actions ∧
    message.value.kind = topic.kind ∧ topic.stored? message = some (topic.name, stored) ∧
    ((system.after actions).broker.log topic.name)[offset]? = some stored

/-- Every record of a bound topic is that of a message which was sent there, if nobody goes past
the publishers. -/
private theorem exists_isRecordOf {actions : List Action}
    (coded : ∀ action ∈ actions, action.isRaw = false) {topic : Topic}
    (bound : ((ofRegistry .empty).after actions).registry.Binds topic) {offset : Nat}
    {stored : Stored}
    (found : (((ofRegistry .empty).after actions).broker.log topic.name)[offset]? = some stored) :
    ∃ message, (ofRegistry .empty).IsRecordOf actions topic offset message ∧
      message.value.kind = topic.kind ∧ topic.stored? message = some (topic.name, stored) := by
  have origins := (hasOrigins_ofRegistry
    (fun m message => message ∈ (ofRegistry .empty).acceptedBy m actions) .empty).after coded
      fun m message member => member
  have topics : ((ofRegistry .empty).after actions).HasTopics := hasTopics_empty.after actions
  obtain ⟨m, publisher, message, there, accepted, sameKind, stores⟩ :=
    origins.records _ (Broker.mem_appended_of_log found)
  obtain ⟨_, _, sameName, _⟩ := Topic.stored?_eq_some_iff.mp stores
  obtain rfl := topics.oneToOne.topic_eq bound (topics.publishers there) sameName
  exact ⟨message, ⟨m, publisher, stored, there, rfl, accepted, sameKind, stores, found⟩, sameKind,
    stores⟩

/-- Nobody appends records past the publishers, and a consumer of the broker is for a kind of
payload without doubles. Then every record that it fetches is that of a message which was sent
to a publisher for the same topic, and its payload decodes to the value of that message; no
record is skipped; and every message that was received has the key, the value and the headers of
the message whose record it comes from. -/
theorem delivered_as_sent (actions : List Action) (n : Nat) (consumer : Consumer) (client : Client)
    (coded : ∀ action ∈ actions, action.isRaw = false)
    (there : ((ofRegistry .empty).after actions).consumers[n]? = some consumer)
    (memory : consumer.source = .memory client) (noOrder : consumer.topic.kind ≠ .orderPlaced) :
    (∀ record, ⟨.consumer n, .fetched record⟩ ∈ (ofRegistry .empty).events actions →
        ∃ offset message payload, record.token = ⟨consumer.topic.name, 0, (offset : Nat)⟩ ∧
          (ofRegistry .empty).IsRecordOf actions consumer.topic offset message ∧
          message.value.encode = .ok payload ∧ record.payload = some payload ∧
          Payload.decode consumer.topic.kind payload = .ok message.value) ∧
      (∀ token,
        ⟨.consumer n, .noted (.emptyRecord token)⟩ ∉ (ofRegistry .empty).events actions ∧
          ⟨.consumer n, .noted (.undecodable token)⟩ ∉ (ofRegistry .empty).events actions) ∧
      ∀ received ∈ consumer.received, ∃ offset message,
        (ofRegistry .empty).IsRecordOf actions consumer.topic offset message ∧
          received.token = some ⟨consumer.topic.name, 0, (offset : Nat)⟩ ∧
          received.key = message.key ∧ received.value = message.value ∧
          received.headers = message.headers := by
  have readers : ((ofRegistry .empty).after actions).ReadersFollow :=
    (readersFollow_ofRegistry .empty).after actions
  have topics : ((ofRegistry .empty).after actions).HasTopics := hasTopics_empty.after actions
  have bound := topics.consumers there
  have handles {happening : Happening}
      (event : ⟨.consumer n, happening⟩ ∈ (ofRegistry .empty).events actions) :
      consumer.topic.Handles ((ofRegistry .empty).after actions).broker happening :=
    handles_of_event (readersFollow_ofRegistry .empty) event there memory
  -- The record of a message that was sent is never skipped.
  have unskipped {offset : Nat} {stored : Stored}
      (found : (((ofRegistry .empty).after actions).broker.log consumer.topic.name)[offset]? =
        some stored) : consumer.topic.skipNote? offset stored = none := by
    obtain ⟨message, _, sameKind, stores⟩ := exists_isRecordOf coded bound found
    exact Topic.skipNote?_of_message? (Topic.message?_of_stored? noOrder sameKind stores offset)
  refine ⟨?_, ?_, ?_⟩
  · intro record event
    cases handles event with
    | @fetched offset stored found =>
        obtain ⟨message, isRecord, sameKind, stores⟩ := exists_isRecordOf coded bound found
        obtain ⟨payload, encoding, _, rfl⟩ := Topic.stored?_eq_some_iff.mp stores
        refine ⟨offset, message, payload, rfl, isRecord, encoding, rfl, ?_⟩
        rw [← sameKind] at noOrder ⊢
        exact Payload.decode_encode noOrder encoding
  · intro token
    constructor
    · intro event
      cases handles event with
      | skipped found skips =>
          rw [unskipped found] at skips
          cases skips
    · intro event
      cases handles event with
      | skipped found skips =>
          rw [unskipped found] at skips
          cases skips
  · intro received member
    obtain ⟨settings, polled, follows⟩ := readers there memory
    obtain ⟨offset, stored, found, made⟩ := follows.mem_received member
    obtain ⟨message, isRecord, sameKind, stores⟩ := exists_isRecordOf coded bound found
    rw [Topic.message?_of_stored? noOrder sameKind stores offset] at made
    cases made
    exact ⟨offset, message, isRecord, rfl, rfl, rfl, rfl⟩

/-- A message with a key and a header goes from a publisher to a consumer. -/
def beatSent : List Action :=
  [.register .unit "beat", .register .text "note", .addPublisher .unit (.memory []) "scope",
    .addConsumer .unit (.memory []) "scope", .openPublisher 0, .openConsumer 0,
    .send 0 (((Message.ofPayload .unit).withKey "k").withHeader "a" "b"), .step (.pump 0),
    .step (.pollLoop 0), .step (.pollLoop 0), .step (.pollLoop 0), .receive 0]

/-- The message is received as it was sent. -/
theorem beat_delivered_as_sent :
    ∃ consumer, ((ofRegistry .empty).after beatSent).consumers[0]? = some consumer ∧
      consumer.received.length = 1 ∧
      ∀ received ∈ consumer.received, ∃ offset message,
        (ofRegistry .empty).IsRecordOf beatSent consumer.topic offset message ∧
          received.token = some ⟨consumer.topic.name, 0, (offset : Nat)⟩ ∧
          received.key = message.key ∧ received.value = message.value ∧
          received.headers = message.headers :=
  ⟨_, rfl, rfl, (delivered_as_sent beatSent 0 _ _ (by decide) rfl rfl (by decide)).2.2⟩

end System

end TopicBus
