import TopicBus.Proofs.Delivery.Draining

/-!
# Delivery in order

A consumer of the broker inside the process gives the application the messages of its topic from
its start on, each once, in order and without a gap, whatever else happens on the bus. The start
is settled by its first poll; after that no commit moves it. And nothing in the log keeps it
from reading on.
-/

namespace TopicBus.System

variable {system : System} {n : Nat} {settings : Settings.Consumer} {topic : Topic}

/-- A consumer with settings that are right, for a kind that has a topic, is made and stands
behind all others. -/
theorem addConsumer_memory {kind : Payload.Kind} {options : Mapping} {scope : String}
    (resolved : Settings.Consumer.resolve options = .ok settings)
    (bound : system.registry.topic kind = .ok topic) :
    (system.next (.addConsumer kind (.memory options) scope)).consumers[system.consumers.length]? =
      some (.create topic (.memory (.ofSettings settings)) settings scope) := by
  have making : Consumer.ofInlet system.registry kind (.memory options) scope =
      .ok (.create topic (.memory (.ofSettings settings)) settings scope) := by
    simp only [Consumer.ofInlet, Inlet.resolve, resolved, bound]
    rfl
  simp [next, act, addConsumer, making]

theorem hasFollower_addConsumer {kind : Payload.Kind} {options : Mapping} {scope : String}
    (resolved : Settings.Consumer.resolve options = .ok settings)
    (bound : system.registry.topic kind = .ok topic) :
    (system.next (.addConsumer kind (.memory options) scope)).HasFollower system.consumers.length
      settings topic none :=
  ⟨_, _, addConsumer_memory resolved bound, Consumer.follows_create _ scope⟩

theorem received_isPrefix {first : Broker} {consumer : Consumer} {client : Client} {start : Int}
    (follows : consumer.Follows settings topic client system.broker (some first))
    (starts : first.start? settings topic.name = some start) :
    consumer.received <+: system.broker.messagesFrom topic start := by
  have progress := follows.progress
  obtain rfl := follows.sameTopic
  cases progress with
  | refused nowhere untouched isEnded =>
      rw [starts] at nowhere
      cases nowhere
  | started begins reads =>
      rw [starts] at begins
      cases begins
      exact reads.received_isPrefix

/-- A consumer that has no place to start from ends its stream without a message. -/
theorem ended_of_no_start {first : Broker} {consumer : Consumer} {client : Client}
    (there : system.consumers[n]? = some consumer)
    (follows : consumer.Follows settings topic client system.broker (some first))
    (nowhere : first.start? settings topic.name = none) :
    consumer.received = [] ∧
      (consumer.inbox.hasReceiver = true → (system.act (.receive n)).1 = .ended) := by
  have progress := follows.progress
  obtain rfl := follows.sameTopic
  cases progress with
  | refused _ untouched isEnded =>
      obtain ⟨nothing, empty⟩ := List.append_eq_nil_iff.mp untouched.nothing
      refine ⟨nothing, ?_⟩
      intro hasReceiver
      have untaken : consumer.receive? = none := by
        simp [Consumer.receive?, Channel.pop?, empty]
      simp [act, receive, there, Consumer.canReceive_of_hasReceiver hasReceiver, untaken,
        Channel.isLive, follows.hasEnded isEnded]
  | started starts reads =>
      rw [nowhere] at starts
      cases starts

/-- A consumer receives the messages of its topic in order, without gaps and without
repetitions. It is made in any bus, and then anything may be done in any order. Before its first
poll it has received nothing. That poll settles the start; if there is none, the stream ends
without a message. -/
theorem received_in_order (system : System) (later : List Action) (kind : Payload.Kind)
    (options : Mapping) (scope : String) (settings : Settings.Consumer) (topic : Topic)
    (resolved : Settings.Consumer.resolve options = .ok settings)
    (bound : system.registry.topic kind = .ok topic) :
    let n := system.consumers.length
    let made := system.next (.addConsumer kind (.memory options) scope)
    let final := made.after later
    ∃ consumer, final.consumers[n]? = some consumer ∧ consumer.topic = topic ∧
      match made.firstPolled? n later with
      | none => consumer.received = []
      | some first =>
          match first.start? settings topic.name with
          | none =>
              consumer.received = [] ∧
                (consumer.inbox.hasReceiver = true → (final.act (.receive n)).1 = .ended)
          | some start =>
              -- What was received is the beginning of what there is from the start on,
              consumer.received <+: final.broker.messagesFrom topic start ∧
              -- each message made from its own record,
              (∀ message ∈ consumer.received,
                ∃ (offset : Nat) (stored : Stored) (payload : Text.Bytes),
                start ≤ offset ∧ (final.broker.log topic.name)[offset]? = some stored ∧
                  stored.payload = some payload ∧
                  Payload.decode topic.kind payload = .ok message.value ∧
                  message.token = some ⟨topic.name, 0, offset⟩) ∧
              -- and a consumer that goes on needs only to be read from to deliver all of it.
              (0 ≤ start → consumer.loop.isRunning = true → consumer.inbox.hasReceiver = true →
                final.isConsumerStopped consumer = false → final.broker.failure? = none →
                ∃ reading, (∀ action ∈ reading, action.isReading n = true) ∧
                  (final.after reading).broker = final.broker ∧
                  ∃ consumerAfter, (final.after reading).consumers[n]? = some consumerAfter ∧
                    consumerAfter.received = final.broker.messagesFrom topic start) := by
  intro n made final
  have follower : final.HasFollower n settings topic (none.or (made.firstPolled? n later)) :=
    (hasFollower_addConsumer resolved bound).after later
  obtain ⟨consumer, client, there, follows⟩ := follower
  rw [Option.none_or] at follows
  refine ⟨consumer, there, follows.sameTopic, ?_⟩
  cases polled : made.firstPolled? n later with
  | none =>
      rw [polled] at follows
      cases follows.progress with
      | unasked untouched => exact untouched.received_eq_nil
  | some first =>
      rw [polled] at follows
      cases starts : first.start? settings topic.name with
      | none => simpa [starts] using ended_of_no_start there follows starts
      | some start =>
          have delivered := received_isPrefix follows starts
          simp only [starts]
          refine ⟨delivered, ?_, ?_⟩
          · intro message member
            obtain ⟨offset, stored, beyond, found, made⟩ :=
              Broker.mem_messagesFrom_iff.mp (delivered.subset member)
            obtain ⟨payload, value, there, decoded, rfl⟩ := topic.message?_eq_some_iff.mp made
            exact ⟨offset, stored, payload, beyond, found, there, decoded, rfl⟩
          · intro whole isRunning hasReceiver goesOn works
            exact IsReading.drains whole starts
              ⟨there, follows, isRunning, goesOn, works, hasReceiver⟩

/-- A record that does not decode stands between two others, and the reader gets both of these. -/
theorem received_in_order_past_broken_record :
    let made := (ofRegistry ⟨[(.unit, "beat")], [("beat", .unit)]⟩).next
      (.addConsumer .unit (.memory []) "scope")
    let final := made.after
      [.openConsumer 0, .append "beat" none (Scan.letters "null"),
        .append "beat" none (Scan.letters "nil"), .append "beat" none (Scan.letters "null"),
        .step (.pollLoop 0), .step (.pollLoop 0)]
    ∃ reading consumer, (final.after reading).consumers[0]? = some consumer ∧
      consumer.received =
        [⟨none, .unit, .empty, some ⟨"beat", 0, 0⟩⟩,
          ⟨none, .unit, .empty, some ⟨"beat", 0, 2⟩⟩] := by
  intro made final
  obtain ⟨consumer, there, _, reads⟩ :=
    received_in_order (ofRegistry ⟨[(.unit, "beat")], [("beat", .unit)]⟩)
      [.openConsumer 0, .append "beat" none (Scan.letters "null"),
        .append "beat" none (Scan.letters "nil"), .append "beat" none (Scan.letters "null"),
        .step (.pollLoop 0), .step (.pollLoop 0)]
      .unit [] "scope" .default ⟨.unit, "beat"⟩ rfl rfl
  cases there
  obtain ⟨_, _, drains⟩ := reads
  obtain ⟨reading, _, _, consumer, there, received⟩ := drains (by decide) rfl rfl rfl rfl
  exact ⟨reading, consumer, there, received⟩

end TopicBus.System
