import TopicBus.Bus.Run
import TopicBus.Proofs.Bus.Making
import TopicBus.Proofs.Bus.Pump
import TopicBus.Proofs.Delivery.Following

/-!
# Between making and opening

Making an instance changes neither the registry nor the broker. Whatever is wrong with a setup
is reported then: an instance over the broker inside the process can be opened as long as the
application holds it, whatever has been done in between.
-/

namespace TopicBus

open Payload (Kind)

/-! ## Publishers that were never opened -/

namespace Publisher

/-- Whether a publisher over the broker inside the process was never opened and is still held. -/
structure IsUnopened (publisher : Publisher) (buffer : Nat) : Prop where
  buffer : publisher.buffer = buffer
  isHeld : publisher.isHeld = true
  memory : publisher.sink = .memory
  pump : publisher.pump = .unstarted
  /-- A close comes to its end at once. -/
  closing : publisher.closing = .notYet ∨ ∃ result, publisher.closing = .done result

variable {publisher after : Publisher} {buffer : Nat}

theorem isUnopened_create (topic : Topic) (settings : Settings.Producer) (scope : String) :
    (create topic .memory settings scope).IsUnopened settings.bufferSize :=
  ⟨rfl, rfl, rfl, rfl, .inl rfl⟩

theorem IsUnopened.beginClose (unopened : publisher.IsUnopened buffer) (now : Nat) :
    (publisher.beginClose now).IsUnopened buffer := by
  obtain ⟨size, isHeld, memory, pump, closing⟩ := unopened
  unfold Publisher.beginClose
  split
  · simp only [hasTasks, pump, memory, Sink.flush]
    exact ⟨size, isHeld, rfl, rfl, .inr ⟨_, rfl⟩⟩
  · exact ⟨size, isHeld, memory, pump, closing⟩

/-- Whatever happens to it, it stays unopened until it is opened or let go. -/
theorem Changes.isUnopened {system : System} {n : Nat} {action : Action} {reply : Reply}
    {happenings : List Happening} {broker : Broker}
    (changed : publisher.Changes system n action reply happenings after broker)
    (unopened : publisher.IsUnopened buffer) (kept : action ≠ .openPublisher n)
    (held : action ≠ .dropPublisher n) : after.IsUnopened buffer := by
  have ⟨size, isHeld, memory, pump, closing⟩ := unopened
  cases changed with
  | opened opens => exact absurd rfl kept
  | sent sameKind taken | reserved given | filled sameKind placed | outboxDropped =>
      exact ⟨size, isHeld, memory, pump, closing⟩
  | closeBegun isHeld first => exact unopened.beginClose system.now
  | dropped => exact absurd rfl held
  | callsTaken scripted =>
      rw [memory] at scripted
      cases scripted
  | flushReleased =>
      simp only [releaseFlush, pump]
      exact unopened
  | pumped moved =>
      simp only [pumpStep?, pump] at moved
      cases moved
  | drained moved =>
      obtain ⟨reports, drain, notes, rfl, -⟩ := drainStep?_reports moved
      exact ⟨size, isHeld, memory, pump, closing⟩
  | closeStepped moved =>
      rcases closing with notYet | ⟨result, done⟩
      · simp only [closeStep?, notYet] at moved
        cases moved
      · simp only [closeStep?, done] at moved
        cases moved

/-- It is opened if there can be a channel with so many places. -/
theorem IsUnopened.openOutbox (unopened : publisher.IsUnopened buffer)
    (fits : buffer ≤ Channel.greatestCapacity) :
    publisher.openOutbox.1 = some (.ok (max buffer 1)) := by
  have room : (Channel.ofBuffer? publisher.buffer : Option (Channel Message)) =
      some (.ofBuffer buffer) :=
    Channel.ofBuffer?_eq_some_iff.mpr ⟨unopened.buffer ▸ fits, unopened.buffer ▸ rfl⟩
  simp only [Publisher.openOutbox, isOpened, unopened.pump, room]
  rfl

end Publisher

/-! ## Consumers that were never opened -/

namespace Consumer

/-- Whether a consumer over the broker inside the process was never opened and is still held. -/
structure IsUnopened (consumer : Consumer) (buffer : Nat) : Prop where
  buffer : consumer.buffer = buffer
  isHeld : consumer.isHeld = true
  memory : ∃ client, consumer.source = .memory client
  loop : consumer.loop = .unstarted

variable {consumer after : Consumer} {buffer : Nat}

theorem isUnopened_create (topic : Topic) (client : Client) (settings : Settings.Consumer)
    (scope : String) :
    (create topic (.memory client) settings scope).IsUnopened settings.bufferSize :=
  ⟨rfl, rfl, ⟨client, rfl⟩, rfl⟩

theorem IsUnopened.beginClose (unopened : consumer.IsUnopened buffer) (now : Nat) :
    (consumer.beginClose now).IsUnopened buffer := by
  obtain ⟨size, isHeld, ⟨client, memory⟩, loop⟩ := unopened
  unfold Consumer.beginClose
  split
  · simp only [hasLoop, loop, finishClose, memory, Source.close]
    exact ⟨size, isHeld, ⟨_, rfl⟩, rfl⟩
  · exact ⟨size, isHeld, ⟨client, memory⟩, loop⟩

/-- Whatever happens to it, it stays unopened until it is opened or let go. -/
theorem Changes.isUnopened {system : System} {n : Nat} {action : Action} {reply : Reply}
    {happenings : List Happening} {broker : Broker}
    (changed : consumer.Changes system n action reply happenings after broker)
    (unopened : consumer.IsUnopened buffer) (kept : action ≠ .openConsumer n)
    (held : action ≠ .dropConsumer n) : after.IsUnopened buffer := by
  have ⟨size, isHeld, ⟨client, memory⟩, loop⟩ := unopened
  cases changed with
  | opened opens => exact absurd rfl kept
  | received canReceive taken =>
      obtain ⟨_, _, same⟩ := Option.map_eq_some_iff.mp taken
      cases same
      exact ⟨size, isHeld, ⟨client, memory⟩, loop⟩
  | inboxClosed canReceive | inboxDropped => exact ⟨size, isHeld, ⟨client, memory⟩, loop⟩
  | closeBegun isHeld first => exact unopened.beginClose system.now
  | dropped => exact absurd rfl held
  | committed done =>
      rw [commit_memory memory done]
      exact unopened
  | acked done =>
      obtain ⟨receipts, rfl, -⟩ := ack?_memory memory done
      exact ⟨size, isHeld, ⟨client, memory⟩, loop⟩
  | revised scripted | callsTaken scripted =>
      rw [memory] at scripted
      cases scripted
  | looped moved =>
      simp [loopStep?, loop, PollLoop.isRunning] at moved
  | closeStepped moved =>
      simp only [closeStep?, loop] at moved
      split at moved
      · rename_i ended
        cases ended
      · rename_i crashed
        cases crashed
      · cases moved

/-- It is opened if there can be a channel with so many places. -/
theorem IsUnopened.openInbox (unopened : consumer.IsUnopened buffer)
    (fits : buffer ≤ Channel.greatestCapacity) : consumer.openInbox.1 = some (.ok ()) := by
  obtain ⟨rfl, -, ⟨client, memory⟩, loop⟩ := unopened
  have room : (Channel.ofBuffer? consumer.buffer : Option (Channel Message)) =
      some (.ofBuffer consumer.buffer) :=
    Channel.ofBuffer?_eq_some_iff.mpr ⟨fits, rfl⟩
  simp only [Consumer.openInbox, isOpened, loop, memory, Source.subscribe, room]
  rfl

end Consumer

/-! ## On a bus -/

namespace System

/-- Makes a publisher over what a setup names. -/
def makePublisher (system : System) (obstacle? : Settings.Obstacles) (kind : Kind) (setup : Setup)
    (scope : String) : Outcome :=
  match setup.outlet obstacle? with
  | .error fault => (.topic (.error fault), system, [])
  | .ok outlet => system.act (.addPublisher kind outlet scope)

/-- Makes a consumer over what a setup names. -/
def makeConsumer (system : System) (obstacle? : Settings.Obstacles) (kind : Kind) (setup : Setup)
    (scope : String) : Outcome :=
  match setup.inlet obstacle? with
  | .error fault => (.topic (.error fault), system, [])
  | .ok inlet => system.act (.addConsumer kind inlet scope)

variable {obstacle? : Settings.Obstacles} {system : System} {kind : Kind} {setup : Setup}
  {scope : String} {n : Nat}

theorem makePublisher_eq (system : System) (obstacle? : Settings.Obstacles) (kind : Kind)
    (setup : Setup) (scope : String) :
    system.makePublisher obstacle? kind setup scope =
      match Publisher.ofSetup obstacle? system.registry kind setup scope with
      | .error fault => (.topic (.error fault), system, [])
      | .ok publisher =>
          (.topic (.ok publisher.topic),
            { system with publishers := system.publishers ++ [publisher] }, []) := by
  unfold makePublisher Publisher.ofSetup
  cases setup.outlet obstacle? <;> rfl

theorem makeConsumer_eq (system : System) (obstacle? : Settings.Obstacles) (kind : Kind)
    (setup : Setup) (scope : String) :
    system.makeConsumer obstacle? kind setup scope =
      match Consumer.ofSetup obstacle? system.registry kind setup scope with
      | .error fault => (.topic (.error fault), system, [])
      | .ok consumer =>
          (.topic (.ok consumer.topic),
            { system with consumers := system.consumers ++ [consumer] }, []) := by
  unfold makeConsumer Consumer.ofSetup
  cases setup.inlet obstacle? <;> rfl

/-- Making a publisher answers why it is not made, and changes neither the registry nor the
broker. -/
theorem makePublisher_spares (system : System) (obstacle? : Settings.Obstacles) (kind : Kind)
    (setup : Setup) (scope : String) :
    (system.makePublisher obstacle? kind setup scope).1 =
        .topic
          ((Publisher.ofSetup obstacle? system.registry kind setup scope).map Publisher.topic) ∧
      (system.makePublisher obstacle? kind setup scope).2.1.registry = system.registry ∧
      (system.makePublisher obstacle? kind setup scope).2.1.broker = system.broker := by
  rw [makePublisher_eq]
  cases Publisher.ofSetup obstacle? system.registry kind setup scope with
  | error fault => exact ⟨rfl, rfl, rfl⟩
  | ok publisher => exact ⟨rfl, rfl, rfl⟩

/-- Making a consumer answers why it is not made, and changes neither the registry nor the
broker. -/
theorem makeConsumer_spares (system : System) (obstacle? : Settings.Obstacles) (kind : Kind)
    (setup : Setup) (scope : String) :
    (system.makeConsumer obstacle? kind setup scope).1 =
        .topic
          ((Consumer.ofSetup obstacle? system.registry kind setup scope).map Consumer.topic) ∧
      (system.makeConsumer obstacle? kind setup scope).2.1.registry = system.registry ∧
      (system.makeConsumer obstacle? kind setup scope).2.1.broker = system.broker := by
  rw [makeConsumer_eq]
  cases Consumer.ofSetup obstacle? system.registry kind setup scope with
  | error fault => exact ⟨rfl, rfl, rfl⟩
  | ok consumer => exact ⟨rfl, rfl, rfl⟩

/-- What every action that is let happen keeps holds after a run of them. -/
theorem after_of_forall_next {Happens : Action → Prop} (Holds : System → Prop)
    (keeps : ∀ (system : System) (action : Action), Happens action → Holds system →
      Holds (system.next action))
    (holds : Holds system) {actions : List Action} (happen : ∀ action ∈ actions, Happens action) :
    Holds (system.after actions) := by
  induction actions generalizing system with
  | nil => exact holds
  | cons action rest inductionHypothesis =>
      obtain ⟨happens, happenLater⟩ := List.forall_mem_cons.mp happen
      exact inductionHypothesis (keeps system action happens holds) happenLater

theorem publisher_unopened_after {publisher : Publisher} {buffer : Nat} {actions : List Action}
    (there : system.publishers[n]? = some publisher) (unopened : publisher.IsUnopened buffer)
    (kept : ∀ action ∈ actions, action ≠ .openPublisher n ∧ action ≠ .dropPublisher n) :
    ∃ later, (system.after actions).publishers[n]? = some later ∧ later.IsUnopened buffer := by
  refine after_of_forall_next
    (fun later => ∃ publisher, later.publishers[n]? = some publisher ∧ publisher.IsUnopened buffer)
    ?_ ⟨publisher, there, unopened⟩ kept
  rintro later action ⟨unopened, held⟩ ⟨publisher, there, still⟩
  rcases (later.act_effect action).publisher_frame there with
    ⟨moved, thereAfter, changed⟩ | ⟨thereAfter, _, _⟩
  · exact ⟨moved, thereAfter, changed.isUnopened still unopened held⟩
  · exact ⟨publisher, thereAfter, still⟩

theorem consumer_unopened_after {consumer : Consumer} {buffer : Nat} {actions : List Action}
    (there : system.consumers[n]? = some consumer) (unopened : consumer.IsUnopened buffer)
    (kept : ∀ action ∈ actions, action ≠ .openConsumer n ∧ action ≠ .dropConsumer n) :
    ∃ later, (system.after actions).consumers[n]? = some later ∧ later.IsUnopened buffer := by
  refine after_of_forall_next
    (fun later => ∃ consumer, later.consumers[n]? = some consumer ∧ consumer.IsUnopened buffer)
    ?_ ⟨consumer, there, unopened⟩ kept
  rintro later action ⟨unopened, held⟩ ⟨consumer, there, still⟩
  rcases (later.act_effect action).consumer_frame there with
    ⟨moved, thereAfter, changed⟩ | ⟨thereAfter, _, _⟩
  · exact ⟨moved, thereAfter, changed.isUnopened still unopened held⟩
  · exact ⟨consumer, thereAfter, still⟩

theorem openPublisher_of_unopened {publisher : Publisher} {buffer : Nat}
    (there : system.publishers[n]? = some publisher) (unopened : publisher.IsUnopened buffer)
    (fits : buffer ≤ Channel.greatestCapacity) :
    (system.act (.openPublisher n)).1 = .capacity (.ok (max buffer 1)) := by
  simp only [act, openPublisher, there, unopened.isHeld, if_true, unopened.openOutbox fits]
  rfl

theorem openConsumer_of_unopened {consumer : Consumer} {buffer : Nat}
    (there : system.consumers[n]? = some consumer) (unopened : consumer.IsUnopened buffer)
    (fits : buffer ≤ Channel.greatestCapacity) :
    (system.act (.openConsumer n)).1 = .outcome (.ok ()) := by
  simp only [act, openConsumer, there, unopened.isHeld, if_true, unopened.openInbox fits]
  rfl

/-- A publisher that is made over the broker inside the process can be opened until it is opened
or let go. -/
theorem made_publisher_opens {publisher : Publisher} (memory : Text.fold setup.driver = "memory")
    (made : Publisher.ofSetup obstacle? system.registry kind setup scope = .ok publisher)
    {actions : List Action}
    (kept : ∀ action ∈ actions, action ≠ .openPublisher system.publishers.length ∧
      action ≠ .dropPublisher system.publishers.length)
    (fits : publisher.buffer ≤ Channel.greatestCapacity) :
    (((system.makePublisher obstacle? kind setup scope).2.1.after actions).act
      (.openPublisher system.publishers.length)).1 = .capacity (.ok (max publisher.buffer 1)) := by
  obtain ⟨settings, name, -, -, rfl⟩ := (Publisher.failsInOrder obstacle?).eq_of_memory memory made
  have there : (system.makePublisher obstacle? kind setup scope).2.1.publishers[
      system.publishers.length]? =
      some (Publisher.create ⟨kind, name⟩ .memory settings scope) := by
    rw [makePublisher_eq, made]
    exact List.getElem?_concat_length
  obtain ⟨later, found, unopened⟩ :=
    publisher_unopened_after there (Publisher.isUnopened_create _ settings scope) kept
  exact openPublisher_of_unopened found unopened fits

/-- A consumer that is made over the broker inside the process can be opened until it is opened
or let go. -/
theorem made_consumer_opens {consumer : Consumer} (memory : Text.fold setup.driver = "memory")
    (made : Consumer.ofSetup obstacle? system.registry kind setup scope = .ok consumer)
    {actions : List Action}
    (kept : ∀ action ∈ actions, action ≠ .openConsumer system.consumers.length ∧
      action ≠ .dropConsumer system.consumers.length)
    (fits : consumer.buffer ≤ Channel.greatestCapacity) :
    (((system.makeConsumer obstacle? kind setup scope).2.1.after actions).act
      (.openConsumer system.consumers.length)).1 = .outcome (.ok ()) := by
  obtain ⟨settings, name, -, -, rfl⟩ := (Consumer.failsInOrder obstacle?).eq_of_memory memory made
  have there : (system.makeConsumer obstacle? kind setup scope).2.1.consumers[
      system.consumers.length]? =
      some (Consumer.create ⟨kind, name⟩ (.memory (.ofSettings settings)) settings scope) := by
    rw [makeConsumer_eq, made]
    exact List.getElem?_concat_length
  obtain ⟨later, found, unopened⟩ :=
    consumer_unopened_after there (Consumer.isUnopened_create _ _ settings scope) kept
  exact openConsumer_of_unopened found unopened fits

/--
Whatever clients the library refuses, what is wrong with a setup is reported in a fixed order when
an instance is made, and never changes the registry or the broker. What was made over the broker
inside the process opens the first time, if a channel can be that large.
-/
theorem faults_before_opening (obstacle? : Settings.Obstacles) :
    Publisher.making.FailsInOrder obstacle? (Publisher.ofSetup obstacle?) ∧
      Consumer.making.FailsInOrder obstacle? (Consumer.ofSetup obstacle?) ∧
      ∀ (system : System) (kind : Kind) (setup : Setup) (scope : String),
        ((system.makePublisher obstacle? kind setup scope).1 =
            .topic
              ((Publisher.ofSetup obstacle? system.registry kind setup scope).map Publisher.topic) ∧
          (system.makePublisher obstacle? kind setup scope).2.1.registry = system.registry ∧
          (system.makePublisher obstacle? kind setup scope).2.1.broker = system.broker) ∧
        ((system.makeConsumer obstacle? kind setup scope).1 =
            .topic
              ((Consumer.ofSetup obstacle? system.registry kind setup scope).map Consumer.topic) ∧
          (system.makeConsumer obstacle? kind setup scope).2.1.registry = system.registry ∧
          (system.makeConsumer obstacle? kind setup scope).2.1.broker = system.broker) ∧
        (∀ publisher, Text.fold setup.driver = "memory" →
          Publisher.ofSetup obstacle? system.registry kind setup scope = .ok publisher →
          publisher.buffer ≤ Channel.greatestCapacity →
          ∀ actions : List Action,
            (∀ action ∈ actions, action ≠ .openPublisher system.publishers.length ∧
              action ≠ .dropPublisher system.publishers.length) →
            (((system.makePublisher obstacle? kind setup scope).2.1.after actions).act
              (.openPublisher system.publishers.length)).1 =
                .capacity (.ok (max publisher.buffer 1))) ∧
        (∀ consumer, Text.fold setup.driver = "memory" →
          Consumer.ofSetup obstacle? system.registry kind setup scope = .ok consumer →
          consumer.buffer ≤ Channel.greatestCapacity →
          ∀ actions : List Action,
            (∀ action ∈ actions, action ≠ .openConsumer system.consumers.length ∧
              action ≠ .dropConsumer system.consumers.length) →
            (((system.makeConsumer obstacle? kind setup scope).2.1.after actions).act
              (.openConsumer system.consumers.length)).1 = .outcome (.ok ())) :=
  ⟨Publisher.failsInOrder obstacle?, Consumer.failsInOrder obstacle?, fun system kind setup scope =>
    ⟨system.makePublisher_spares obstacle? kind setup scope,
      system.makeConsumer_spares obstacle? kind setup scope,
      fun _ memory made fits _ kept => made_publisher_opens memory made kept fits,
      fun _ memory made fits _ kept => made_consumer_opens memory made kept fits⟩⟩

/-- An unknown driver, and a publisher that is closed before it is opened. -/
theorem faults_before_opening_of_closed :
    let obstacle? := Settings.Broker.obstacle?
    let system := ofRegistry ⟨[(.unit, "beat")], [("beat", .unit)]⟩
    let setup : Setup :=
      ⟨" Memory ", [("brokers", .null), ("producer", .mapping [("buffer_size", .text "3")])]⟩
    let settings : Settings.Producer := { Settings.Producer.default with bufferSize := 3 }
    let publisher := Publisher.create ⟨.unit, "beat"⟩ .memory settings "all"
    let made := (system.makePublisher obstacle? .unit setup "all").2.1
    let n := system.publishers.length
    Publisher.ofSetup obstacle? system.registry .ping ⟨"nats", []⟩ "all" =
        .error (.unsupportedDriver "nats") ∧
      Text.fold setup.driver = "memory" ∧
      Publisher.ofSetup obstacle? system.registry .unit setup "all" = .ok publisher ∧
      publisher.buffer ≤ Channel.greatestCapacity ∧
      made.broker = system.broker ∧
      ((made.after [.closePublisher n, .pass 5]).act (.openPublisher n)).1 =
        .capacity (.ok (max publisher.buffer 1)) := by
  intro obstacle? system setup settings publisher made n
  obtain ⟨publishers, -, makes⟩ := faults_before_opening obstacle?
  have unknown : Publisher.ofSetup obstacle? system.registry .ping ⟨"nats", []⟩ "all" =
      .error (.unsupportedDriver "nats") :=
    publishers.unsupported system.registry .ping ⟨"nats", []⟩ "all" (by decide +kernel)
      (by decide +kernel)
  have memory : Text.fold setup.driver = "memory" := by decide +kernel
  have making : Publisher.ofSetup obstacle? system.registry .unit setup "all" = .ok publisher :=
    publishers.memory_made system.registry .unit setup "all" settings "beat" memory rfl rfl
  have fits : publisher.buffer ≤ Channel.greatestCapacity := by decide
  have kept : ∀ action ∈ [Action.closePublisher n, .pass 5],
      action ≠ .openPublisher n ∧ action ≠ .dropPublisher n := by simp
  obtain ⟨⟨-, -, broker⟩, -, opens, -⟩ := makes system .unit setup "all"
  exact ⟨unknown, memory, making, fits, broker, opens publisher memory making fits _ kept⟩

end System

end TopicBus
