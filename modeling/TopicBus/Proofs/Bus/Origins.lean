import TopicBus.Proofs.Bus.Topics
import TopicBus.Proofs.Bus.Records

/-!
# Where records come from

Nothing comes into an outbox but what is sent, and nothing comes into the broker through a
publisher but what was in its outbox. So as long as nobody appends records past the publishers,
every record of the broker is what some publisher has made of a message that its outbox had
accepted, and it stands on the topic of that publisher.
-/

namespace TopicBus

/-! ## Messages and their records -/

/-- What a message is stored as on a topic, if it can be encoded. -/
def Topic.stored? (topic : Topic) (message : Message) : Option (String × Stored) :=
  match message.value.encode with
  | .error _ => none
  | .ok payload =>
      some (topic.name, .ofOutbound ⟨topic.name, message.key, payload, message.headers⟩)

/-- Whether an action puts a record into the broker past all publishers. -/
def Action.isRaw : Action → Bool
  | .append _ _ _ | .enqueue _ => true
  | _ => false

namespace System

/-- The messages that the outbox of a publisher accepts along a run, in the order in which they
are sent. -/
def acceptedBy (system : System) (n : Nat) (actions : List Action) : List Message :=
  (system.run actions).filterMap fun move => acceptedIn n move.action move.reply

theorem acceptedBy_cons (system : System) (n : Nat) (action : Action) (rest : List Action) :
    system.acceptedBy n (action :: rest) =
      (acceptedIn n action (system.act action).1).toList ++
        (system.next action).acceptedBy n rest := by
  simp only [acceptedBy, run, List.filterMap_cons]
  cases acceptedIn n action (system.act action).1 with
  | none => rfl
  | some message => rfl

end System

namespace Publisher

variable {publisher after : Publisher} {now : Nat} {cancelled : Bool} {broker brokerAfter : Broker}
  {happenings : List Happening}

/-! ## Outboxes -/

private theorem PumpStep.outbox_subset
    (moved : publisher.PumpStep now cancelled broker happenings after brokerAfter) :
    after.outbox.queue ⊆ publisher.outbox.queue := by
  cases moved with
  | stopped receiving => exact List.Subset.refl _
  | published emptying between shape publishing =>
      rw [shape]
      cases publishing with
      | unencodable encoding => exact List.subset_cons_self _ _
      | refused encoding enqueued => exact List.subset_cons_self _ _
      | crashed encoding enqueued => exact List.nil_subset _
      | taken encoding enqueued => exact List.subset_cons_self _ _
  | handed reports notes handing => exact List.Subset.refl _
  | emptied emptying empty => exact List.Subset.refl _
  | flushed notes flushing => exact List.Subset.refl _

private theorem CloseStep.outbox_subset (moved : publisher.CloseStep happenings after) :
    after.outbox.queue ⊆ publisher.outbox.queue := by
  cases moved with
  | flushOverdue notes flushing => exact List.Subset.refl _
  | pumpFinished awaiting finished => exact List.Subset.refl _
  | pumpGone awaiting gone => exact List.Subset.refl _
  | pumpOverdue notes awaiting => exact List.nil_subset _
  | settled notes awaiting => exact List.Subset.refl _

/-- Nothing comes into an outbox but a message of the right kind that is sent to it. -/
theorem Changes.mem_outbox {system : System} {n : Nat} {action : Action} {reply : Reply}
    (changed : publisher.Changes system n action reply happenings after brokerAfter)
    {message : Message} (member : message ∈ after.outbox.queue) :
    message ∈ publisher.outbox.queue ∨
      (acceptedIn n action reply = some message ∧ message.value.kind = publisher.topic.kind) := by
  cases changed with
  | opened opens =>
      cases opens with
      | again isOpened | crashed unstarted tooLarge => exact .inl member
      | started unstarted fits => cases member
  | sent sameKind taken =>
      obtain ⟨_, _, rfl⟩ := Channel.send_accepted_iff.mp taken
      rcases List.mem_append.mp member with before | last
      · exact .inl before
      · cases List.mem_singleton.mp last
        exact .inr ⟨by simp [acceptedIn], sameKind⟩
  | reserved given =>
      obtain ⟨_, _, rfl⟩ := Channel.reserve_accepted_iff.mp given
      exact .inl member
  | filled sameKind placed =>
      rcases List.mem_append.mp member with before | last
      · exact .inl before
      · cases List.mem_singleton.mp last
        exact .inr ⟨by simp [acceptedIn], sameKind⟩
  | outboxDropped => exact .inl member
  | closeBegun isHeld first =>
      obtain ⟨sink, stopped, closing, begun⟩ := publisher.beginClose_spares system.now
      rw [begun] at member
      exact .inl member
  | dropped => exact .inl member
  | callsTaken scripted => exact .inl member
  | flushReleased =>
      have same : publisher.releaseFlush.outbox = publisher.outbox := by
        unfold releaseFlush
        split
        · rfl
        · rfl
      rw [same] at member
      exact .inl member
  | pumped moved => exact .inl ((pumpStep?_step moved).outbox_subset member)
  | drained moved =>
      obtain ⟨reports, drain, notes, rfl, _⟩ := drainStep?_reports moved
      exact .inl member
  | closeStepped moved => exact .inl ((closeStep?_step moved).outbox_subset member)

/-! ## Records -/

private theorem stored_of_enqueue {message : Message} {payload : Text.Bytes} {enqueued : Enqueued}
    {sink : Sink} {stored : Broker}
    (enqueuing : publisher.sink.enqueue now broker (publisher.outbound message payload) =
      (enqueued, sink, stored))
    (encoding : message.value.encode = .ok payload) {entry : Entry}
    (member : entry ∈ entriesOf (appendedBy broker stored)) :
    publisher.topic.stored? message = some entry.stored := by
  have stores := publisher.sink.enqueue_broker now broker (publisher.outbound message payload)
  rw [enqueuing] at stores
  rcases stores with rfl | rfl
  · rw [appendedBy_same] at member
    cases member
  · rw [appendedBy_append] at member
    cases List.mem_singleton.mp member
    simp only [Topic.stored?, encoding]
    rfl

private theorem Published.stored_eq {emptying : Bool} {message : Message}
    (published : publisher.Published now emptying broker message happenings after brokerAfter)
    {entry : Entry} (member : entry ∈ entriesOf happenings) :
    publisher.topic.stored? message = some entry.stored := by
  cases published with
  | unencodable encoding => cases member
  | @refused _ fault _ _ encoding enqueuing =>
      have silent : entriesOf [.noted (.refused publisher.topic.name fault)] = [] := rfl
      rw [entriesOf_append, silent, List.append_nil] at member
      exact stored_of_enqueue enqueuing encoding member
  | crashed encoding enqueuing => exact stored_of_enqueue enqueuing encoding member
  | taken encoding enqueuing => exact stored_of_enqueue enqueuing encoding member

theorem Changes.entry_origin {system : System} {n : Nat} {action : Action} {reply : Reply}
    (changed : publisher.Changes system n action reply happenings after brokerAfter)
    {entry : Entry} (member : entry ∈ entriesOf happenings) :
    ∃ message ∈ publisher.outbox.queue, publisher.topic.stored? message = some entry.stored := by
  cases changed with
  | opened opens | reserved given | outboxDropped | closeBegun isHeld first | dropped
  | callsTaken scripted | flushReleased => cases member
  | sent sameKind taken | filled sameKind placed => cases member
  | pumped moved =>
      cases pumpStep?_step moved with
      | stopped receiving => cases member
      | @published message rest emptying _ _ _ between shape publishing =>
          exact ⟨message, by simp [shape], publishing.stored_eq member⟩
      | handed reports notes handing =>
          rw [entriesOf_notes] at member
          cases member
      | emptied emptying empty => cases member
      | flushed notes flushing =>
          rw [entriesOf_notes] at member
          cases member
  | drained moved =>
      obtain ⟨reports, drain, notes, _, rfl⟩ := drainStep?_reports moved
      rw [entriesOf_notes] at member
      cases member
  | closeStepped moved =>
      rw [(closeStep?_step moved).entries] at member
      cases member

end Publisher

theorem Consumer.Changes.entries {system : System} {n : Nat} {consumer after : Consumer}
    {action : Action} {reply : Reply} {happenings : List Happening} {broker : Broker}
    (changed : consumer.Changes system n action reply happenings after broker) :
    entriesOf happenings = [] := by
  cases changed with
  | looped moved => exact loopStep?_entries moved
  | opened opens | received canReceive taken | inboxClosed canReceive | inboxDropped
  | closeBegun isHeld first | dropped
  | committed done | acked done | revised scripted | callsTaken scripted | closeStepped moved => rfl

namespace System

variable {system : System}

/-- A record comes from the outbox of a publisher, unless it is appended past all publishers. -/
theorem Effect.entry_origin {after : System} {action : Action} {reply : Reply}
    {events : List Event} (effect : system.Effect action reply after events)
    (coded : action.isRaw = false) {entry : Entry} (member : entry ∈ storedIn events) :
    ∃ (n : Nat) (publisher : Publisher) (message : Message),
      system.publishers[n]? = some publisher ∧ message ∈ publisher.outbox.queue ∧
        publisher.topic.stored? message = some entry.stored := by
  cases effect with
  | @publisher _ _ n before changedTo broker happenings found changed =>
      rw [storedIn_eventsOf] at member
      obtain ⟨message, inOutbox, stores⟩ := changed.entry_origin member
      exact ⟨n, before, message, found, inOutbox, stores⟩
  | consumer found changed =>
      rw [storedIn_eventsOf, changed.entries] at member
      cases member
  | appended topic key payload => cases coded
  | enqueued outbound => cases coded
  | idle unsent unmoved => cases member
  | client found changed => cases member
  | registered kind name replied => cases member
  | publisherAdded making => cases member
  | consumerAdded making => cases member
  | clientAdded settings => cases member
  | pollsFailed reason => cases member
  | notified owes => cases member
  | scopeCancelled scope => cases member
  | passed milliseconds => cases member

/-! ## Runs -/

variable {sent : Nat → Message → Prop}

/-- A record of the broker is what a publisher has made of a message of its kind that was sent
to it. -/
def HasSent (sent : Nat → Message → Prop) (system : System) (record : String × Stored) : Prop :=
  ∃ (n : Nat) (publisher : Publisher) (message : Message),
    system.publishers[n]? = some publisher ∧ sent n message ∧
      message.value.kind = publisher.topic.kind ∧ publisher.topic.stored? message = some record

/-- Nothing is in an outbox or in the broker but what was sent. -/
structure HasOrigins (sent : Nat → Message → Prop) (system : System) : Prop where
  outboxes : ∀ {n : Nat} {publisher : Publisher} {message : Message},
    system.publishers[n]? = some publisher → message ∈ publisher.outbox.queue →
      sent n message ∧ message.value.kind = publisher.topic.kind
  records : ∀ record ∈ system.broker.appended, system.HasSent sent record

theorem hasOrigins_ofRegistry (sent : Nat → Message → Prop) (registry : Registry) :
    (ofRegistry registry).HasOrigins sent where
  outboxes there := by cases there
  records record member := by cases member

private theorem outbox_ofOutlet {registry : Registry} {kind : Payload.Kind} {outlet : Outlet}
    {scope : String} {made : Publisher}
    (making : Publisher.ofOutlet registry kind outlet scope = .ok made) :
    made.outbox.queue = [] := by
  unfold Publisher.ofOutlet at making
  split at making
  · cases making
  · split at making
    · cases making
    · cases making
      rfl

private theorem HasSent.next {record : String × Stored} (was : system.HasSent sent record)
    (action : Action) : (system.next action).HasSent sent record := by
  obtain ⟨n, publisher, message, there, wasSent, sameKind, stores⟩ := was
  obtain ⟨after, thereAfter, sameTopic⟩ := publisher_next there action
  exact ⟨n, after, message, thereAfter, wasSent, by rw [sameTopic, sameKind],
    by rw [sameTopic, stores]⟩

theorem HasOrigins.next (origins : system.HasOrigins sent) {action : Action}
    (coded : action.isRaw = false)
    (accepted : ∀ n message, acceptedIn n action (system.act action).1 = some message →
      sent n message) : (system.next action).HasOrigins sent := by
  have effect := system.act_effect action
  refine ⟨?_, ?_⟩
  · intro n publisher message there member
    cases before : system.publishers[n]? with
    | none =>
        obtain ⟨kind, outlet, scope, rfl, making⟩ := effect.publisher_origin before there
        rw [outbox_ofOutlet making] at member
        cases member
    | some old =>
        rcases effect.publisher_frame before with ⟨moved, found, changed⟩ | ⟨found, _, _⟩
        · rw [found] at there
          cases there
          rw [changed.topic_eq]
          rcases changed.mem_outbox member with kept | ⟨added, sameKind⟩
          · exact origins.outboxes before kept
          · exact ⟨accepted n message added, sameKind⟩
        · rw [found] at there
          cases there
          exact origins.outboxes before member
  · intro record member
    have stored : (system.next action).broker.appended =
        system.broker.appended ++ (storedIn (system.act action).2.2).map Entry.stored :=
      effect.stores.appended_eq
    rw [stored] at member
    rcases List.mem_append.mp member with before | now
    · exact HasSent.next (origins.records record before) action
    -- What is stored now was in an outbox before, so it was sent at some earlier time.
    · obtain ⟨entry, inEvents, rfl⟩ := List.mem_map.mp now
      obtain ⟨n, publisher, message, there, inOutbox, stores⟩ :=
        effect.entry_origin coded inEvents
      obtain ⟨wasSent, sameKind⟩ := origins.outboxes there inOutbox
      exact HasSent.next ⟨n, publisher, message, there, wasSent, sameKind, stores⟩ action

/-- A run that appends nothing past the publishers keeps the origins. -/
theorem HasOrigins.after (origins : system.HasOrigins sent) {actions : List Action}
    (coded : ∀ action ∈ actions, action.isRaw = false)
    (accepted : ∀ n, ∀ message ∈ system.acceptedBy n actions, sent n message) :
    (system.after actions).HasOrigins sent := by
  induction actions generalizing system with
  | nil => exact origins
  | cons action rest inductionHypothesis =>
      simp only [acceptedBy_cons, List.mem_append, Option.mem_toList] at accepted
      have now := origins.next (coded action List.mem_cons_self)
        fun n message added => accepted n message (.inl added)
      exact inductionHypothesis now
        (fun later member => coded later (List.mem_cons_of_mem _ member))
        fun n message member => accepted n message (.inr member)

end System

end TopicBus
