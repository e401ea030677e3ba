import TopicBus.Proofs.Bus.Starting
import TopicBus.Proofs.Bus.Tasks

/-!
# What an action does

An action is done to the whole bus, but it changes at most one publisher, one consumer or one
client, or it touches none of them. The relation `System.Effect` lists what it can do, and
`act_effect` says that nothing else is done. Whatever is to be kept along a run has to be shown
for these effects only.
-/

namespace TopicBus

/-- A change of the publisher with the number `n`: the action and the reply to it, what the
publisher does, the publisher and the broker afterwards. -/
inductive Publisher.Changes (system : System) (n : Nat) (publisher : Publisher) :
    Action → Reply → List Happening → Publisher → Broker → Prop
  | opened {result : Option (Except Fault Nat)} {after : Publisher}
      (opens : publisher.Opens result after) :
      Changes system n publisher (.openPublisher n) (result.elim .crashed .capacity) [] after
        system.broker
  | sent {message : Message} {outbox : Channel Message}
      (sameKind : message.value.kind = publisher.topic.kind)
      (taken : publisher.outbox.send message = (.accepted, outbox)) :
      Changes system n publisher (.send n message) (.sent .accepted) [.accepted message]
        { publisher with outbox := outbox } system.broker
  | reserved {outbox : Channel Message}
      (given : publisher.outbox.reserve = (.accepted, outbox)) :
      Changes system n publisher (.reserve n) .done [] { publisher with outbox := outbox }
        system.broker
  | filled {message : Message} (sameKind : message.value.kind = publisher.topic.kind)
      (placed : 0 < publisher.outbox.reserved) :
      Changes system n publisher (.fill n message) (.sent .accepted) [.accepted message]
        (publisher.fill message) system.broker
  | outboxDropped :
      Changes system n publisher (.dropOutbox n) .done [] publisher.dropOutbox system.broker
  | closeBegun (isHeld : publisher.isHeld) (first : publisher.closing = .notYet) :
      Changes system n publisher (.closePublisher n) .done [] (publisher.beginClose system.now)
        system.broker
  | dropped : Changes system n publisher (.dropPublisher n) .done [] publisher.drop system.broker
  | callsTaken {plan : FlushPlan} {calls : List Call}
      (scripted : publisher.sink = .scripted plan calls) :
      Changes system n publisher (.takePublisherCalls n) (.calls calls) []
        { publisher with sink := .scripted plan [] } system.broker
  | flushReleased :
      Changes system n publisher (.releaseFlush n) .done [] publisher.releaseFlush system.broker
  | pumped {after : Publisher} {broker : Broker} {happenings : List Happening}
      (moved :
        publisher.pumpStep? system.now (system.isPublisherStopped publisher) system.broker =
          some (after, broker, happenings)) :
      Changes system n publisher (.step (.pump n)) .done happenings after broker
  | drained {after : Publisher} {happenings : List Happening}
      (moved : publisher.drainStep? system.now = some (after, happenings)) :
      Changes system n publisher (.step (.drain n)) .done happenings after system.broker
  | closeStepped {after : Publisher} {happenings : List Happening}
      (moved : publisher.closeStep? system.now = some (after, happenings)) :
      Changes system n publisher (.step (.closePublisher n)) .done happenings after system.broker

/-- A change of the consumer with the number `n`: the action and the reply to it, what the
consumer does, the consumer and the broker afterwards. -/
inductive Consumer.Changes (system : System) (n : Nat) (consumer : Consumer) :
    Action → Reply → List Happening → Consumer → Broker → Prop
  | opened {result : Option (Except Fault Unit)} {after : Consumer}
      (opens : consumer.Opens result after) :
      Changes system n consumer (.openConsumer n) (result.elim .crashed .outcome) [] after
        system.broker
  | received {message : Message} {after : Consumer}
      (canReceive : consumer.canReceive)
      (taken : consumer.receive? = some (message, after)) :
      Changes system n consumer (.receive n) (.received consumer.receipts.length message) [] after
        system.broker
  | inboxClosed (canReceive : consumer.canReceive) :
      Changes system n consumer (.closeInbox n) .done [] consumer.closeInbox system.broker
  | inboxDropped :
      Changes system n consumer (.dropInbox n) .done [] consumer.dropInbox system.broker
  | closeBegun (isHeld : consumer.isHeld) (first : consumer.closing = .notYet) :
      Changes system n consumer (.closeConsumer n) .done [] (consumer.beginClose system.now)
        system.broker
  | dropped : Changes system n consumer (.dropConsumer n) .done [] consumer.drop system.broker
  | committed {token : Token} {result : Except Fault Unit} {after : Consumer} {broker : Broker}
      (done : consumer.commit system.broker token = (result, after, broker)) :
      Changes system n consumer (.commit n token) (.outcome result) [] after broker
  | acked {receipt : Nat} {result : Except Fault Unit} {after : Consumer} {broker : Broker}
      (done : consumer.ack? system.broker receipt = some (result, after, broker)) :
      Changes system n consumer (.ack n receipt) (.outcome result) [] after broker
  | revised {revision : Revision} {script : Script}
      (scripted : consumer.source = .scripted script) :
      Changes system n consumer (.revise n revision) .done []
        { consumer with source := .scripted (script.revise revision) } system.broker
  | callsTaken {script : Script} (scripted : consumer.source = .scripted script) :
      Changes system n consumer (.takeConsumerCalls n) (.calls script.calls) []
        { consumer with source := .scripted { script with calls := [] } } system.broker
  | looped {happenings : List Happening} {after : Consumer}
      (moved :
        consumer.loopStep? system.now (system.isConsumerStopped consumer) system.broker =
          some (after, happenings)) :
      Changes system n consumer (.step (.pollLoop n)) .done happenings after system.broker
  | closeStepped {after : Consumer} (moved : consumer.closeStep? = some after) :
      Changes system n consumer (.step (.closeConsumer n)) .done [] after system.broker

/-- A consumer with an inbox that is given up and has kept some of its messages. Closing the
inbox keeps all of them, and dropping it none. -/
def Consumer.shut (consumer : Consumer) (kept : List Message) (takesRest : Bool) : Consumer :=
  { consumer with
    inbox := { consumer.inbox with hasReceiver := false, queue := kept }
    takesRest := takesRest }

/-- A change of the client with the number `n`: the action and the reply to it, the client and
the broker afterwards. -/
inductive Client.Changes (system : System) (n : Nat) (client : Client) :
    Action → Reply → Client → Broker → Prop
  | subscribed (topic : String) :
      Changes system n client (.subscribe n topic) (.outcome (.ok ())) (client.subscribe topic)
        system.broker
  | fetched :
      Changes system n client (.fetch n)
        (.fetched ((client.next system.broker).1.mapError .transport))
        (client.next system.broker).2 system.broker
  | committed (token : Token) :
      Changes system n client (.commitClient n token)
        (.outcome ((client.commit system.broker token).1.mapError .commit)) client
        (client.commit system.broker token).2
  | closed :
      Changes system n client (.closeClient n) (.outcome (.ok ())) client.close system.broker

/-- What an action does: the reply to it, the bus afterwards, and the events. -/
inductive System.Effect (system : System) : Action → Reply → System → List Event → Prop
  /-- Nothing is changed. No message was taken, and a loop whose turn it was cannot move. -/
  | idle {action : Action} {reply : Reply}
      (unsent : reply ≠ .sent .accepted)
      (unmoved : ∀ {n : Nat} {consumer : Consumer},
        action = .step (.pollLoop n) → system.consumers[n]? = some consumer →
          consumer.loopStep? system.now (system.isConsumerStopped consumer) system.broker = none) :
      Effect system action reply system []
  | publisher {action : Action} {reply : Reply} {n : Nat} {before after : Publisher}
      {broker : Broker} {happenings : List Happening}
      (found : system.publishers[n]? = some before)
      (changed : before.Changes system n action reply happenings after broker) :
      Effect system action reply { system.setPublisher n after with broker := broker }
        (eventsOf (.publisher n) happenings)
  | consumer {action : Action} {reply : Reply} {n : Nat} {before after : Consumer}
      {broker : Broker} {happenings : List Happening}
      (found : system.consumers[n]? = some before)
      (changed : before.Changes system n action reply happenings after broker) :
      Effect system action reply { system.setConsumer n after with broker := broker }
        (eventsOf (.consumer n) happenings)
  | client {action : Action} {reply : Reply} {n : Nat} {before after : Client} {broker : Broker}
      (found : system.clients[n]? = some before)
      (changed : before.Changes system n action reply after broker) :
      Effect system action reply { system.setClient n after with broker := broker } []
  | registered (kind : Payload.Kind) (name : String) {reply : Reply}
      (replied : reply = .topic ((system.registry.register kind name).1.mapError .registry)) :
      Effect system (.register kind name) reply
        { system with registry := (system.registry.register kind name).2 } []
  | publisherAdded {kind : Payload.Kind} {outlet : Outlet} {scope : String} {made : Publisher}
      (making : Publisher.ofOutlet system.registry kind outlet scope = .ok made) :
      Effect system (.addPublisher kind outlet scope) (.topic (.ok made.topic))
        { system with publishers := system.publishers ++ [made] } []
  | consumerAdded {kind : Payload.Kind} {inlet : Inlet} {scope : String} {made : Consumer}
      (making : Consumer.ofInlet system.registry kind inlet scope = .ok made) :
      Effect system (.addConsumer kind inlet scope) (.topic (.ok made.topic))
        { system with consumers := system.consumers ++ [made] } []
  | clientAdded (settings : Settings.Consumer) :
      Effect system (.addClient settings) .done
        { system with clients := system.clients ++ [.ofSettings settings] } []
  | appended (topic : String) (key : Option String) (payload : Text.Bytes) :
      Effect system (.append topic key payload) (.offset (system.broker.size topic))
        { system with broker := system.broker.append topic (.ofRaw key payload) }
        [⟨.application, .appended topic (system.broker.size topic) (.ofRaw key payload)⟩]
  | enqueued (outbound : Outbound) :
      Effect system (.enqueue outbound) (.offset (system.broker.size outbound.topic))
        { system with broker := system.broker.append outbound.topic (.ofOutbound outbound) }
        [⟨.application,
          .appended outbound.topic (system.broker.size outbound.topic) (.ofOutbound outbound)⟩]
  | pollsFailed (reason : String) :
      Effect system (.failPolls reason) .done
        { system with broker := system.broker.failPolls reason } []
  | notified (owes : 0 < system.broker.owed) :
      Effect system (.step .notify) .done { system with broker := system.broker.notify } []
  | scopeCancelled (scope : String) :
      Effect system (.cancel scope) .done
        { system with cancelled := system.cancelled ++ [scope] } []
  | passed (milliseconds : Nat) :
      Effect system (.pass milliseconds) .done
        { system with now := system.now + milliseconds } []

namespace System

variable {system : System}

/-! ## One action after another -/

private theorem effect_absent {action : Action}
    (unmoved : ∀ {n : Nat} {consumer : Consumer},
      action = .step (.pollLoop n) → system.consumers[n]? = some consumer →
        consumer.loopStep? system.now (system.isConsumerStopped consumer) system.broker = none) :
    system.Effect action .absent system [] :=
  .idle (by simp) unmoved

theorem setPublisher_same {n : Nat} {publisher : Publisher}
    (found : system.publishers[n]? = some publisher) :
    system.setPublisher n publisher = system := by
  obtain ⟨inside, rfl⟩ := List.getElem?_eq_some_iff.mp found
  simp [setPublisher]

/-! ## Publishers -/

private theorem effect_addPublisher (kind : Payload.Kind) (outlet : Outlet) (scope : String) :
    system.Effect (.addPublisher kind outlet scope) (system.addPublisher kind outlet scope).1
      (system.addPublisher kind outlet scope).2.1 (system.addPublisher kind outlet scope).2.2 := by
  unfold addPublisher
  split
  · exact .idle (by simp) (by simp)
  · rename_i publisher making
    exact .publisherAdded making

private theorem effect_openPublisher (n : Nat) :
    system.Effect (.openPublisher n) (system.openPublisher n).1 (system.openPublisher n).2.1
      (system.openPublisher n).2.2 := by
  unfold openPublisher
  split
  · exact effect_absent (by simp)
  · rename_i publisher found
    split
    · exact .publisher found (.opened publisher.openOutbox_opens)
    · exact effect_absent (by simp)

private theorem effect_send (n : Nat) (message : Message) :
    system.Effect (.send n message) (system.send n message).1 (system.send n message).2.1
      (system.send n message).2.2 := by
  unfold send
  split
  · exact effect_absent (by simp)
  · rename_i publisher found
    split
    · rename_i allowed
      simp only [Bool.and_eq_true, decide_eq_true_eq] at allowed
      cases sending : publisher.outbox.send message with
      | mk sent outbox =>
          simp only [Publisher.send, sending]
          by_cases accepted : sent = .accepted
          · subst accepted
            exact .publisher found (.sent allowed.2 sending)
          · have unchanged : outbox = publisher.outbox := Channel.send_refused accepted sending
            subst unchanged
            have silent : System.sending n message sent = [] := by
              cases sent with
              | accepted => exact absurd rfl accepted
              | full => rfl
              | closed => rfl
            rw [setPublisher_same found, silent]
            exact .idle (by simpa using accepted) (by simp)
    · exact effect_absent (by simp)

private theorem effect_reserve (n : Nat) :
    system.Effect (.reserve n) (system.reserve n).1 (system.reserve n).2.1
      (system.reserve n).2.2 := by
  unfold reserve
  split
  · exact effect_absent (by simp)
  · rename_i publisher found
    split
    · unfold Publisher.reserve
      cases reserving : publisher.outbox.reserve with
      | mk sent outbox =>
          cases sent with
          | accepted => exact .publisher found (.reserved reserving)
          | full | closed => exact .idle (by simp) (by simp)
    · exact effect_absent (by simp)

private theorem effect_fill (n : Nat) (message : Message) :
    system.Effect (.fill n message) (system.fill n message).1 (system.fill n message).2.1
      (system.fill n message).2.2 := by
  unfold fill
  split
  · exact effect_absent (by simp)
  · rename_i publisher found
    split
    · rename_i allowed
      simp only [Bool.and_eq_true, decide_eq_true_eq] at allowed
      exact .publisher found (.filled allowed.2 allowed.1)
    · exact effect_absent (by simp)

private theorem effect_dropOutbox (n : Nat) :
    system.Effect (.dropOutbox n) (system.dropOutbox n).1 (system.dropOutbox n).2.1
      (system.dropOutbox n).2.2 := by
  unfold dropOutbox
  split
  · exact effect_absent (by simp)
  · rename_i publisher found
    exact .publisher found .outboxDropped

private theorem effect_closePublisher (n : Nat) :
    system.Effect (.closePublisher n) (system.closePublisher n).1 (system.closePublisher n).2.1
      (system.closePublisher n).2.2 := by
  unfold closePublisher
  split
  · exact effect_absent (by simp)
  · rename_i publisher found
    split
    · rename_i isHeld
      split
      · rename_i first
        exact .publisher found (.closeBegun isHeld first)
      · exact .idle (by simp) (by simp)
    · exact effect_absent (by simp)

private theorem effect_dropPublisher (n : Nat) :
    system.Effect (.dropPublisher n) (system.dropPublisher n).1 (system.dropPublisher n).2.1
      (system.dropPublisher n).2.2 := by
  unfold dropPublisher
  split
  · exact effect_absent (by simp)
  · rename_i publisher found
    exact .publisher found .dropped

private theorem effect_takePublisherCalls (n : Nat) :
    system.Effect (.takePublisherCalls n) (system.takePublisherCalls n).1
      (system.takePublisherCalls n).2.1 (system.takePublisherCalls n).2.2 := by
  unfold takePublisherCalls
  split
  · rename_i publisher found
    split
    · rename_i plan calls scripted
      exact .publisher found (.callsTaken scripted)
    · exact effect_absent (by simp)
  · exact effect_absent (by simp)

private theorem effect_releaseFlush (n : Nat) :
    system.Effect (.releaseFlush n) (system.releaseFlush n).1 (system.releaseFlush n).2.1
      (system.releaseFlush n).2.2 := by
  unfold releaseFlush
  split
  · exact effect_absent (by simp)
  · rename_i publisher found
    exact .publisher found .flushReleased

/-! ## Consumers -/

private theorem effect_addConsumer (kind : Payload.Kind) (inlet : Inlet) (scope : String) :
    system.Effect (.addConsumer kind inlet scope) (system.addConsumer kind inlet scope).1
      (system.addConsumer kind inlet scope).2.1 (system.addConsumer kind inlet scope).2.2 := by
  unfold addConsumer
  split
  · exact .idle (by simp) (by simp)
  · rename_i consumer making
    exact .consumerAdded making

private theorem effect_openConsumer (n : Nat) :
    system.Effect (.openConsumer n) (system.openConsumer n).1 (system.openConsumer n).2.1
      (system.openConsumer n).2.2 := by
  unfold openConsumer
  split
  · exact effect_absent (by simp)
  · rename_i consumer found
    split
    · exact .consumer found (.opened consumer.openInbox_opens)
    · exact effect_absent (by simp)

private theorem effect_receive (n : Nat) :
    system.Effect (.receive n) (system.receive n).1 (system.receive n).2.1
      (system.receive n).2.2 := by
  unfold receive
  split
  · exact effect_absent (by simp)
  · rename_i consumer found
    split
    · rename_i canReceive
      split
      · rename_i message after taken
        exact .consumer found (.received canReceive taken)
      · refine .idle ?_ (by simp)
        split <;> simp
    · exact effect_absent (by simp)

private theorem effect_closeInbox (n : Nat) :
    system.Effect (.closeInbox n) (system.closeInbox n).1 (system.closeInbox n).2.1
      (system.closeInbox n).2.2 := by
  unfold closeInbox
  split
  · exact effect_absent (by simp)
  · rename_i consumer found
    split
    · rename_i canReceive
      exact .consumer found (.inboxClosed canReceive)
    · exact effect_absent (by simp)

private theorem effect_dropInbox (n : Nat) :
    system.Effect (.dropInbox n) (system.dropInbox n).1 (system.dropInbox n).2.1
      (system.dropInbox n).2.2 := by
  unfold dropInbox
  split
  · exact effect_absent (by simp)
  · rename_i consumer found
    exact .consumer found .inboxDropped

private theorem effect_closeConsumer (n : Nat) :
    system.Effect (.closeConsumer n) (system.closeConsumer n).1 (system.closeConsumer n).2.1
      (system.closeConsumer n).2.2 := by
  unfold closeConsumer
  split
  · exact effect_absent (by simp)
  · rename_i consumer found
    split
    · rename_i isHeld
      split
      · rename_i first
        exact .consumer found (.closeBegun isHeld first)
      · exact .idle (by simp) (by simp)
    · exact effect_absent (by simp)

private theorem effect_dropConsumer (n : Nat) :
    system.Effect (.dropConsumer n) (system.dropConsumer n).1 (system.dropConsumer n).2.1
      (system.dropConsumer n).2.2 := by
  unfold dropConsumer
  split
  · exact effect_absent (by simp)
  · rename_i consumer found
    exact .consumer found .dropped

private theorem effect_commit (n : Nat) (token : Token) :
    system.Effect (.commit n token) (system.commit n token).1 (system.commit n token).2.1
      (system.commit n token).2.2 := by
  unfold commit
  split
  · exact effect_absent (by simp)
  · rename_i consumer found
    split
    · exact .consumer found (.committed rfl)
    · exact effect_absent (by simp)

private theorem effect_ack (n receipt : Nat) :
    system.Effect (.ack n receipt) (system.ack n receipt).1 (system.ack n receipt).2.1
      (system.ack n receipt).2.2 := by
  unfold ack
  split
  · exact effect_absent (by simp)
  · rename_i consumer found
    split
    · exact effect_absent (by simp)
    · rename_i result after broker done
      exact .consumer found (.acked done)

private theorem effect_revise (n : Nat) (revision : Revision) :
    system.Effect (.revise n revision) (system.revise n revision).1
      (system.revise n revision).2.1 (system.revise n revision).2.2 := by
  unfold revise
  split
  · rename_i consumer found
    split
    · rename_i script scripted
      exact .consumer found (.revised scripted)
    · exact effect_absent (by simp)
  · exact effect_absent (by simp)

private theorem effect_takeConsumerCalls (n : Nat) :
    system.Effect (.takeConsumerCalls n) (system.takeConsumerCalls n).1
      (system.takeConsumerCalls n).2.1 (system.takeConsumerCalls n).2.2 := by
  unfold takeConsumerCalls
  split
  · rename_i consumer found
    split
    · rename_i script scripted
      exact .consumer found (.callsTaken scripted)
    · exact effect_absent (by simp)
  · exact effect_absent (by simp)

/-! ## Clients -/

private theorem effect_withClient {action : Action}
    (unmoved : ∀ n, action ≠ .step (.pollLoop n)) (n : Nat) (use : Client → Reply × Client × Broker)
    (changes : ∀ client : Client, client.Changes system n action (use client).1 (use client).2.1
      (use client).2.2) :
    system.Effect action (system.withClient n use).1 (system.withClient n use).2.1
      (system.withClient n use).2.2 := by
  unfold withClient
  split
  · exact effect_absent fun turn => absurd turn (unmoved _)
  · rename_i client found
    exact .client found (changes client)

/-! ## Tasks -/

private theorem effect_pump (n : Nat) :
    system.Effect (.step (.pump n)) (system.step (.pump n)).1 (system.step (.pump n)).2.1
      (system.step (.pump n)).2.2 := by
  simp only [step, step?]
  split
  · exact effect_absent (by simp)
  · rename_i stepped
    obtain ⟨publisher, _, _, _, found, moved, rfl, rfl⟩ := pumpStep?_eq_some_iff.mp stepped
    exact .publisher found (.pumped moved)

private theorem effect_drain (n : Nat) :
    system.Effect (.step (.drain n)) (system.step (.drain n)).1 (system.step (.drain n)).2.1
      (system.step (.drain n)).2.2 := by
  simp only [step, step?]
  split
  · exact effect_absent (by simp)
  · rename_i stepped
    obtain ⟨publisher, _, _, found, moved, rfl, rfl⟩ := drainStep?_eq_some_iff.mp stepped
    exact .publisher found (.drained moved)

private theorem effect_closePublisherStep (n : Nat) :
    system.Effect (.step (.closePublisher n)) (system.step (.closePublisher n)).1
      (system.step (.closePublisher n)).2.1 (system.step (.closePublisher n)).2.2 := by
  simp only [step, step?]
  split
  · exact effect_absent (by simp)
  · rename_i stepped
    obtain ⟨publisher, _, _, found, moved, rfl, rfl⟩ := closePublisherStep?_eq_some_iff.mp stepped
    exact .publisher found (.closeStepped moved)

private theorem effect_pollLoop (n : Nat) :
    system.Effect (.step (.pollLoop n)) (system.step (.pollLoop n)).1
      (system.step (.pollLoop n)).2.1 (system.step (.pollLoop n)).2.2 := by
  simp only [step, step?]
  split
  · rename_i stuck
    refine effect_absent ?_
    intro m consumer turn found
    cases turn
    -- A loop that could move would have made the task move.
    cases moving :
        consumer.loopStep? system.now (system.isConsumerStopped consumer) system.broker with
    | none => rfl
    | some result =>
        have moves :=
          loopStep?_eq_some_iff.mpr ⟨consumer, result.1, result.2, found, moving, rfl, rfl⟩
        rw [stuck] at moves
        cases moves
  · rename_i stepped
    obtain ⟨consumer, _, _, found, moved, rfl, rfl⟩ := loopStep?_eq_some_iff.mp stepped
    exact .consumer found (.looped moved)

private theorem effect_closeConsumerStep (n : Nat) :
    system.Effect (.step (.closeConsumer n)) (system.step (.closeConsumer n)).1
      (system.step (.closeConsumer n)).2.1 (system.step (.closeConsumer n)).2.2 := by
  simp only [step, step?]
  split
  · exact effect_absent (by simp)
  · rename_i stepped
    obtain ⟨consumer, _, found, moved, rfl, rfl⟩ := closeConsumerStep?_eq_some_iff.mp stepped
    exact .consumer found (.closeStepped moved)

private theorem effect_notify :
    system.Effect (.step .notify) (system.step .notify).1 (system.step .notify).2.1
      (system.step .notify).2.2 := by
  simp only [step, step?]
  split
  · exact effect_absent (by simp)
  · rename_i stepped
    obtain ⟨owes, rfl, rfl⟩ := notifyStep?_eq_some_iff.mp stepped
    exact .notified owes

private theorem effect_step (task : Task) :
    system.Effect (.step task) (system.step task).1 (system.step task).2.1
      (system.step task).2.2 := by
  cases task with
  | pump n => exact effect_pump n
  | drain n => exact effect_drain n
  | pollLoop n => exact effect_pollLoop n
  | closePublisher n => exact effect_closePublisherStep n
  | closeConsumer n => exact effect_closeConsumerStep n
  | notify => exact effect_notify

/-! ## All actions -/

/-- An action does one of the listed things. -/
theorem act_effect (system : System) (action : Action) :
    system.Effect action (system.act action).1 (system.next action) (system.act action).2.2 := by
  cases action with
  | register kind name => exact .registered kind name rfl
  | addPublisher kind outlet scope => exact effect_addPublisher kind outlet scope
  | addConsumer kind inlet scope => exact effect_addConsumer kind inlet scope
  | openPublisher n => exact effect_openPublisher n
  | send n message => exact effect_send n message
  | reserve n => exact effect_reserve n
  | fill n message => exact effect_fill n message
  | dropOutbox n => exact effect_dropOutbox n
  | closePublisher n => exact effect_closePublisher n
  | dropPublisher n => exact effect_dropPublisher n
  | openConsumer n => exact effect_openConsumer n
  | receive n => exact effect_receive n
  | closeInbox n => exact effect_closeInbox n
  | dropInbox n => exact effect_dropInbox n
  | closeConsumer n => exact effect_closeConsumer n
  | dropConsumer n => exact effect_dropConsumer n
  | ack n receipt => exact effect_ack n receipt
  | commit n token => exact effect_commit n token
  | cancel scope => exact .scopeCancelled scope
  | append topic key payload => exact .appended topic key payload
  | enqueue outbound => exact .enqueued outbound
  | failPolls reason => exact .pollsFailed reason
  | addClient settings => exact .clientAdded settings
  | subscribe n topic => exact effect_withClient (by simp) n _ fun _ => .subscribed topic
  | fetch n => exact effect_withClient (by simp) n _ fun _ => .fetched
  | commitClient n token => exact effect_withClient (by simp) n _ fun _ => .committed token
  | closeClient n => exact effect_withClient (by simp) n _ fun _ => .closed
  | revise n revision => exact effect_revise n revision
  | takePublisherCalls n => exact effect_takePublisherCalls n
  | takeConsumerCalls n => exact effect_takeConsumerCalls n
  | releaseFlush n => exact effect_releaseFlush n
  | step task => exact effect_step task
  | pass milliseconds => exact .passed milliseconds

end System

end TopicBus
