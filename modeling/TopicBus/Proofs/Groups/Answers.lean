import TopicBus.Proofs.Bus.Effects
import TopicBus.Proofs.Groups.Sight

/-!
# What is answered to a group

An action is outside of a group if it operates on a consumer or a client that is not in it. What
comes of any other action can be told from what the group sees of the bus, and it changes that
in the same way.
-/

namespace TopicBus

/-! ## Who is concerned by an action -/

namespace Action

/-- The consumer that an action operates on. -/
def consumer? : Action → Option Nat
  | .openConsumer n | .receive n | .closeInbox n | .dropInbox n | .closeConsumer n
  | .dropConsumer n | .ack n _ | .commit n _ | .revise n _ | .takeConsumerCalls n
  | .step (.pollLoop n) | .step (.closeConsumer n) => some n
  | _ => none

/-- The client that an action operates on. -/
def client? : Action → Option Nat
  | .subscribe n _ | .fetch n | .commitClient n _ | .closeClient n => some n
  | _ => none

end Action

namespace System

/-- Whether an action operates on a consumer or a client of a group. -/
def isInside (system : System) (group : String) (action : Action) : Bool :=
  (action.consumer?.bind (system.consumers[·]?)).any (·.source.group? = some group) ||
    (action.client?.bind (system.clients[·]?)).any (·.group = some group)

/-- Whether an action operates on a consumer or a client that is not in a group. -/
def isOutside (system : System) (group : String) (action : Action) : Bool :=
  (action.consumer?.bind (system.consumers[·]?)).any (·.source.group? ≠ some group) ||
    (action.client?.bind (system.clients[·]?)).any (·.group ≠ some group)

/-- The bus as a group sees it. -/
def seenBy (system : System) (group : String) : System :=
  { system with
    broker := system.broker.seenBy group
    consumers := system.consumers.map (·.seenBy group)
    clients := system.clients.map (·.seenBy group) }

/-- What comes of an action as a group sees it. -/
def Outcome.seenBy (group : String) (outcome : Outcome) : Outcome :=
  (outcome.1, outcome.2.1.seenBy group, outcome.2.2)

variable {system : System} {group : String} {n : Nat} {action : Action}

@[simp]
theorem seenBy_seenBy (system : System) (group : String) :
    (system.seenBy group).seenBy group = system.seenBy group := by
  simp [seenBy, Function.comp_def]

@[simp]
theorem publishers_seenBy : (system.seenBy group).publishers = system.publishers :=
  rfl

/-- A group sees the consumers that are in it as they are. -/
theorem consumers_seenBy
    (inside : ∀ consumer, system.consumers[n]? = some consumer →
      consumer.source.group? = some group) :
    (system.seenBy group).consumers[n]? = system.consumers[n]? := by
  simp only [seenBy, List.getElem?_map]
  cases there : system.consumers[n]? with
  | none => rfl
  | some consumer => exact congrArg some (Consumer.seenBy_of_inGroup (inside consumer there))

theorem clients_seenBy
    (inside : ∀ client, system.clients[n]? = some client → client.group = some group) :
    (system.seenBy group).clients[n]? = system.clients[n]? := by
  simp only [seenBy, List.getElem?_map]
  cases there : system.clients[n]? with
  | none => rfl
  | some client => exact congrArg some (Client.seenBy_of_inGroup (inside client there))

/-! ## Actions that are answered by what the group sees -/

private theorem absent_seenBy :
    Outcome.seenBy group (system.seenBy group).absent = Outcome.seenBy group system.absent := by
  simp [Outcome.seenBy, absent]

private theorem still_seenBy (reply : Reply) :
    Outcome.seenBy group (reply, system.seenBy group, []) =
      Outcome.seenBy group (reply, system, []) := by
  simp [Outcome.seenBy]

/-- Where the view changes in the same way, the same is seen. -/
private theorem changed_seenBy {first second : System}
    (same : first.seenBy group = second.seenBy group) (reply : Reply) (events : List Event) :
    Outcome.seenBy group (reply, first, events) = Outcome.seenBy group (reply, second, events) := by
  simp only [Outcome.seenBy, same]

private theorem setPublisher_seenBy (publisher : Publisher) (broker : Broker) :
    { (system.seenBy group).setPublisher n publisher with
        broker := broker.seenBy group }.seenBy group =
      { system.setPublisher n publisher with broker := broker }.seenBy group := by
  simp [seenBy, setPublisher, Function.comp_def]

private theorem replacePublisher_seenBy (publisher : Publisher) :
    ((system.seenBy group).setPublisher n publisher).seenBy group =
      (system.setPublisher n publisher).seenBy group :=
  setPublisher_seenBy publisher system.broker

private theorem setConsumer_seenBy (consumer : Consumer) (broker : Broker) :
    { (system.seenBy group).setConsumer n consumer with
        broker := broker.seenBy group }.seenBy group =
      { system.setConsumer n consumer with broker := broker }.seenBy group := by
  simp [seenBy, setConsumer, List.map_set, Function.comp_def]

private theorem replaceConsumer_seenBy (consumer : Consumer) :
    ((system.seenBy group).setConsumer n consumer).seenBy group =
      (system.setConsumer n consumer).seenBy group :=
  setConsumer_seenBy consumer system.broker

private theorem setClient_seenBy (client : Client) (broker : Broker) :
    { (system.seenBy group).setClient n client with
        broker := broker.seenBy group }.seenBy group =
      { system.setClient n client with broker := broker }.seenBy group := by
  simp [seenBy, setClient, List.map_set, Function.comp_def]

/-! ### Publishers -/

private theorem openPublisher_seenBy :
    Outcome.seenBy group ((system.seenBy group).openPublisher n) =
      Outcome.seenBy group (system.openPublisher n) := by
  simp only [openPublisher, publishers_seenBy]
  split
  · exact absent_seenBy
  · split
    · exact changed_seenBy (replacePublisher_seenBy _) _ _
    · exact absent_seenBy

private theorem send_seenBy (message : Message) :
    Outcome.seenBy group ((system.seenBy group).send n message) =
      Outcome.seenBy group (system.send n message) := by
  simp only [send, publishers_seenBy]
  split
  · exact absent_seenBy
  · split
    · exact changed_seenBy (replacePublisher_seenBy _) _ _
    · exact absent_seenBy

private theorem reserve_seenBy :
    Outcome.seenBy group ((system.seenBy group).reserve n) =
      Outcome.seenBy group (system.reserve n) := by
  simp only [reserve, publishers_seenBy]
  split
  · exact absent_seenBy
  · split
    · split
      · exact changed_seenBy (replacePublisher_seenBy _) _ _
      · exact still_seenBy _
    · exact absent_seenBy

private theorem fill_seenBy (message : Message) :
    Outcome.seenBy group ((system.seenBy group).fill n message) =
      Outcome.seenBy group (system.fill n message) := by
  simp only [fill, publishers_seenBy]
  split
  · exact absent_seenBy
  · split
    · exact changed_seenBy (replacePublisher_seenBy _) _ _
    · exact absent_seenBy

private theorem closePublisher_seenBy :
    Outcome.seenBy group ((system.seenBy group).closePublisher n) =
      Outcome.seenBy group (system.closePublisher n) := by
  simp only [closePublisher, publishers_seenBy]
  split
  · exact absent_seenBy
  · split
    · split
      · exact changed_seenBy (replacePublisher_seenBy _) _ _
      · exact still_seenBy _
    · exact absent_seenBy

private theorem takePublisherCalls_seenBy :
    Outcome.seenBy group ((system.seenBy group).takePublisherCalls n) =
      Outcome.seenBy group (system.takePublisherCalls n) := by
  simp only [takePublisherCalls, publishers_seenBy]
  split
  · split
    · exact changed_seenBy (replacePublisher_seenBy _) _ _
    · exact absent_seenBy
  · exact absent_seenBy

/-- Whatever is done at once to a publisher, if it is there. -/
private theorem withPublisher_seenBy (use : Publisher → Publisher) :
    Outcome.seenBy group (match (system.seenBy group).publishers[n]? with
      | none => (system.seenBy group).absent
      | some publisher => (.done, (system.seenBy group).setPublisher n (use publisher), [])) =
    Outcome.seenBy group (match system.publishers[n]? with
      | none => system.absent
      | some publisher => (.done, system.setPublisher n (use publisher), [])) := by
  simp only [publishers_seenBy]
  split
  · exact absent_seenBy
  · exact changed_seenBy (replacePublisher_seenBy _) _ _

private theorem pumpStep_seenBy :
    Outcome.seenBy group ((system.seenBy group).step (.pump n)) =
      Outcome.seenBy group (system.step (.pump n)) := by
  simp only [step, step?, pumpStep?, publishers_seenBy]
  cases there : system.publishers[n]? with
  | none => exact absent_seenBy
  | some publisher =>
      have same : publisher.pumpStep? (system.seenBy group).now
          ((system.seenBy group).isPublisherStopped publisher) (system.seenBy group).broker =
          (publisher.pumpStep? system.now (system.isPublisherStopped publisher) system.broker).map
            fun moved => (moved.1, moved.2.1.seenBy group, moved.2.2) :=
        publisher.pumpStep?_seenBy system.now system.broker
          (system.isPublisherStopped publisher)
      cases moving : publisher.pumpStep? system.now (system.isPublisherStopped publisher)
          system.broker with
      | none =>
          rw [moving] at same
          simpa [moving, same] using absent_seenBy
      | some moved =>
          rw [moving] at same
          simpa [moving, same] using changed_seenBy (setPublisher_seenBy _ _) _ _

private theorem drainStep_seenBy :
    Outcome.seenBy group ((system.seenBy group).step (.drain n)) =
      Outcome.seenBy group (system.step (.drain n)) := by
  have same : (system.seenBy group).now = system.now := rfl
  simp only [step, step?, drainStep?, publishers_seenBy, same]
  cases there : system.publishers[n]? with
  | none => exact absent_seenBy
  | some publisher =>
      cases moving : publisher.drainStep? system.now with
      | none => simpa [moving] using absent_seenBy
      | some moved =>
          simpa [moving] using changed_seenBy (replacePublisher_seenBy _) _ _

private theorem closePublisherStep_seenBy :
    Outcome.seenBy group ((system.seenBy group).step (.closePublisher n)) =
      Outcome.seenBy group (system.step (.closePublisher n)) := by
  have same : (system.seenBy group).now = system.now := rfl
  simp only [step, step?, closePublisherStep?, publishers_seenBy, same]
  cases there : system.publishers[n]? with
  | none => exact absent_seenBy
  | some publisher =>
      cases moving : publisher.closeStep? system.now with
      | none => simpa [moving] using absent_seenBy
      | some moved =>
          simpa [moving] using changed_seenBy (replacePublisher_seenBy _) _ _

/-! ### Consumers of the group -/

section

variable (inside : ∀ consumer, system.consumers[n]? = some consumer →
  consumer.source.group? = some group)

include inside

private theorem openConsumer_seenBy :
    Outcome.seenBy group ((system.seenBy group).openConsumer n) =
      Outcome.seenBy group (system.openConsumer n) := by
  simp only [openConsumer, consumers_seenBy inside]
  split
  · exact absent_seenBy
  · split
    · exact changed_seenBy (replaceConsumer_seenBy _) _ _
    · exact absent_seenBy

private theorem receive_seenBy :
    Outcome.seenBy group ((system.seenBy group).receive n) =
      Outcome.seenBy group (system.receive n) := by
  simp only [receive, consumers_seenBy inside]
  split
  · exact absent_seenBy
  · split
    · split
      · exact changed_seenBy (replaceConsumer_seenBy _) _ _
      · exact still_seenBy _
    · exact absent_seenBy

private theorem closeInbox_seenBy :
    Outcome.seenBy group ((system.seenBy group).closeInbox n) =
      Outcome.seenBy group (system.closeInbox n) := by
  simp only [closeInbox, consumers_seenBy inside]
  split
  · exact absent_seenBy
  · split
    · exact changed_seenBy (replaceConsumer_seenBy _) _ _
    · exact absent_seenBy

private theorem closeConsumer_seenBy :
    Outcome.seenBy group ((system.seenBy group).closeConsumer n) =
      Outcome.seenBy group (system.closeConsumer n) := by
  simp only [closeConsumer, consumers_seenBy inside]
  split
  · exact absent_seenBy
  · split
    · split
      · exact changed_seenBy (replaceConsumer_seenBy _) _ _
      · exact still_seenBy _
    · exact absent_seenBy

/-- Whatever is done at once to a consumer, if it is there. -/
private theorem withConsumer_seenBy (use : Consumer → Consumer) :
    Outcome.seenBy group (match (system.seenBy group).consumers[n]? with
      | none => (system.seenBy group).absent
      | some consumer => (.done, (system.seenBy group).setConsumer n (use consumer), [])) =
    Outcome.seenBy group (match system.consumers[n]? with
      | none => system.absent
      | some consumer => (.done, system.setConsumer n (use consumer), [])) := by
  rw [consumers_seenBy inside]
  split
  · exact absent_seenBy
  · exact changed_seenBy (replaceConsumer_seenBy _) _ _

private theorem revise_seenBy (revision : Revision) :
    Outcome.seenBy group ((system.seenBy group).revise n revision) =
      Outcome.seenBy group (system.revise n revision) := by
  simp only [revise, consumers_seenBy inside]
  split
  · split
    · exact changed_seenBy (replaceConsumer_seenBy _) _ _
    · exact absent_seenBy
  · exact absent_seenBy

private theorem takeConsumerCalls_seenBy :
    Outcome.seenBy group ((system.seenBy group).takeConsumerCalls n) =
      Outcome.seenBy group (system.takeConsumerCalls n) := by
  simp only [takeConsumerCalls, consumers_seenBy inside]
  split
  · split
    · exact changed_seenBy (replaceConsumer_seenBy _) _ _
    · exact absent_seenBy
  · exact absent_seenBy

private theorem commit_seenBy (token : Token) :
    Outcome.seenBy group ((system.seenBy group).commit n token) =
      Outcome.seenBy group (system.commit n token) := by
  have broker : (system.seenBy group).broker = system.broker.seenBy group := rfl
  simp only [commit, consumers_seenBy inside, broker]
  cases there : system.consumers[n]? with
  | none => exact absent_seenBy
  | some consumer =>
      simp only [Consumer.commit_seenBy (inside consumer there)]
      split
      · exact changed_seenBy (setConsumer_seenBy _ _) _ _
      · exact absent_seenBy

private theorem ack_seenBy (receipt : Nat) :
    Outcome.seenBy group ((system.seenBy group).ack n receipt) =
      Outcome.seenBy group (system.ack n receipt) := by
  have broker : (system.seenBy group).broker = system.broker.seenBy group := rfl
  simp only [ack, consumers_seenBy inside, broker]
  cases there : system.consumers[n]? with
  | none => exact absent_seenBy
  | some consumer =>
      simp only [Consumer.ack?_seenBy (inside consumer there)]
      cases consumer.ack? system.broker receipt with
      | none => exact absent_seenBy
      | some done => exact changed_seenBy (setConsumer_seenBy _ _) _ _

private theorem pollLoopStep_seenBy :
    Outcome.seenBy group ((system.seenBy group).step (.pollLoop n)) =
      Outcome.seenBy group (system.step (.pollLoop n)) := by
  simp only [step, step?, loopStep?, consumers_seenBy inside]
  cases there : system.consumers[n]? with
  | none => exact absent_seenBy
  | some consumer =>
      have same : consumer.loopStep? (system.seenBy group).now
          ((system.seenBy group).isConsumerStopped consumer) (system.seenBy group).broker =
          consumer.loopStep? system.now (system.isConsumerStopped consumer) system.broker :=
        Consumer.loopStep?_seenBy (inside consumer there) system.now
          (system.isConsumerStopped consumer) system.broker
      cases moving : consumer.loopStep? system.now (system.isConsumerStopped consumer)
          system.broker with
      | none =>
          rw [moving] at same
          simpa [moving, same] using absent_seenBy
      | some moved =>
          rw [moving] at same
          simpa [moving, same] using changed_seenBy (replaceConsumer_seenBy _) _ _

private theorem closeConsumerStep_seenBy :
    Outcome.seenBy group ((system.seenBy group).step (.closeConsumer n)) =
      Outcome.seenBy group (system.step (.closeConsumer n)) := by
  simp only [step, step?, closeConsumerStep?, consumers_seenBy inside]
  cases there : system.consumers[n]? with
  | none => exact absent_seenBy
  | some consumer =>
      cases moving : consumer.closeStep? with
      | none => simpa [moving] using absent_seenBy
      | some moved => simpa [moving] using changed_seenBy (replaceConsumer_seenBy _) _ _

end

/-! ### Notices -/

private theorem notifyStep_seenBy :
    Outcome.seenBy group ((system.seenBy group).step .notify) =
      Outcome.seenBy group (system.step .notify) := by
  have owed : (system.seenBy group).broker.owed = system.broker.owed := rfl
  by_cases owes : 0 < system.broker.owed
  · simp only [step, step?, notifyStep?, owed, owes, if_true]
    apply changed_seenBy
    simp [seenBy, Function.comp_def]
  · simp only [step, step?, notifyStep?, owed, owes, if_false]
    exact absent_seenBy

/-! ### Clients of the group -/

private theorem withClient_seenBy {use onView : Client → Reply × Client × Broker}
    (inside : ∀ client, system.clients[n]? = some client → client.group = some group)
    (same : ∀ client, client.group = some group →
      onView client = ((use client).1, (use client).2.1, (use client).2.2.seenBy group)) :
    Outcome.seenBy group ((system.seenBy group).withClient n onView) =
      Outcome.seenBy group (system.withClient n use) := by
  simp only [withClient, clients_seenBy inside]
  cases there : system.clients[n]? with
  | none => exact absent_seenBy
  | some client =>
      simp only [same client (inside client there)]
      exact changed_seenBy (setClient_seenBy _ _) _ _

/-! ### All actions -/

private theorem addPublisher_seenBy (kind : Payload.Kind) (outlet : Outlet) (scope : String) :
    Outcome.seenBy group ((system.seenBy group).addPublisher kind outlet scope) =
      Outcome.seenBy group (system.addPublisher kind outlet scope) := by
  have registry : (system.seenBy group).registry = system.registry := rfl
  simp only [addPublisher, registry]
  split
  · exact still_seenBy _
  · apply changed_seenBy
    simp [seenBy, Function.comp_def]

private theorem addConsumer_seenBy (kind : Payload.Kind) (inlet : Inlet) (scope : String) :
    Outcome.seenBy group ((system.seenBy group).addConsumer kind inlet scope) =
      Outcome.seenBy group (system.addConsumer kind inlet scope) := by
  have registry : (system.seenBy group).registry = system.registry := rfl
  simp only [addConsumer, registry]
  split
  · exact still_seenBy _
  · apply changed_seenBy
    simp [seenBy, Function.comp_def]

/-- A consumer that a kept action operates on is in the group. -/
private theorem consumer_inside (kept : system.isOutside group action = false)
    (concerns : action.consumer? = some n) :
    ∀ consumer, system.consumers[n]? = some consumer → consumer.source.group? = some group := by
  intro consumer there
  simp only [isOutside, concerns, Option.bind_some, there, Option.any_some, Bool.or_eq_false_iff,
    decide_eq_false_iff_not, Decidable.not_not] at kept
  exact kept.1

private theorem client_inside (kept : system.isOutside group action = false)
    (concerns : action.client? = some n) :
    ∀ client, system.clients[n]? = some client → client.group = some group := by
  intro client there
  simp only [isOutside, concerns, Option.bind_some, there, Option.any_some, Bool.or_eq_false_iff,
    decide_eq_false_iff_not, Decidable.not_not] at kept
  exact kept.2

/-- What comes of any action but those of outsiders can be told from what the group sees. -/
theorem act_seenBy (kept : system.isOutside group action = false) :
    Outcome.seenBy group ((system.seenBy group).act action) =
      Outcome.seenBy group (system.act action) := by
  cases action with
  | register kind name =>
      apply changed_seenBy
      simp [seenBy, Function.comp_def]
  | addPublisher kind outlet scope => exact addPublisher_seenBy kind outlet scope
  | addConsumer kind inlet scope => exact addConsumer_seenBy kind inlet scope
  | openPublisher n => exact openPublisher_seenBy
  | send n message => exact send_seenBy message
  | reserve n => exact reserve_seenBy
  | fill n message => exact fill_seenBy message
  | dropOutbox n => exact withPublisher_seenBy Publisher.dropOutbox
  | closePublisher n => exact closePublisher_seenBy
  | dropPublisher n => exact withPublisher_seenBy Publisher.drop
  | openConsumer n => exact openConsumer_seenBy (consumer_inside kept rfl)
  | receive n => exact receive_seenBy (consumer_inside kept rfl)
  | closeInbox n => exact closeInbox_seenBy (consumer_inside kept rfl)
  | dropInbox n => exact withConsumer_seenBy (consumer_inside kept rfl) Consumer.dropInbox
  | closeConsumer n => exact closeConsumer_seenBy (consumer_inside kept rfl)
  | dropConsumer n => exact withConsumer_seenBy (consumer_inside kept rfl) Consumer.drop
  | ack n receipt => exact ack_seenBy (consumer_inside kept rfl) receipt
  | commit n token => exact commit_seenBy (consumer_inside kept rfl) token
  | cancel scope | append topic key payload | enqueue outbound | failPolls reason
  | pass milliseconds =>
      apply changed_seenBy
      simp [seenBy, Broker.seenBy, Broker.append, Broker.failPolls, Function.comp_def]
  | addClient settings =>
      apply changed_seenBy
      simp [seenBy, Function.comp_def]
  | subscribe n topic =>
      exact withClient_seenBy (client_inside kept rfl) fun client inGroup => rfl
  | fetch n =>
      apply withClient_seenBy (client_inside kept rfl)
      intro client inGroup
      have same := Client.next_seenBy inGroup system.broker
      simp only [show (system.seenBy group).broker = system.broker.seenBy group from rfl, same]
  | commitClient n token =>
      apply withClient_seenBy (client_inside kept rfl)
      intro client inGroup
      have same := Client.commit_seenBy inGroup system.broker token
      simp only [show (system.seenBy group).broker = system.broker.seenBy group from rfl, same]
  | closeClient n => exact withClient_seenBy (client_inside kept rfl) fun client inGroup => rfl
  | revise n revision => exact revise_seenBy (consumer_inside kept rfl) revision
  | takePublisherCalls n => exact takePublisherCalls_seenBy
  | takeConsumerCalls n => exact takeConsumerCalls_seenBy (consumer_inside kept rfl)
  | releaseFlush n => exact withPublisher_seenBy Publisher.releaseFlush
  | step task =>
      cases task with
      | pump n => exact pumpStep_seenBy
      | drain n => exact drainStep_seenBy
      | pollLoop n => exact pollLoopStep_seenBy (consumer_inside kept rfl)
      | closePublisher n => exact closePublisherStep_seenBy
      | closeConsumer n => exact closeConsumerStep_seenBy (consumer_inside kept rfl)
      | notify => exact notifyStep_seenBy

end System
end TopicBus
