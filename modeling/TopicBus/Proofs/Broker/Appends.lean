import TopicBus.Proofs.Broker.Looks
import TopicBus.Proofs.Bus.Origins
import TopicBus.Proofs.Delivery.Fetching

/-!
# The log is what was given to it

Records are appended by the application and by the pumps of publishers, and by nothing else. The
log of a topic is what was given to it in the order of the appends, so a record that is read at
an offset is what was given to that append, whatever has been done in between.
-/

namespace TopicBus

/-! ## What is given to the broker -/

/-- Whether a pump is about to take a message. One that is told to stop begins to empty the
outbox first. -/
def Pump.isAtMessage (cancelled : Bool) : Pump → Bool
  | .receiving => !cancelled
  | .emptying => true
  | _ => false

/-- The record that a publisher hands over by the next step of its pump, if the broker inside
the process is its sink. -/
def Publisher.handed? (publisher : Publisher) (cancelled : Bool) : Option Outbound :=
  if publisher.sink = .memory ∧ publisher.pump.isAtMessage cancelled then
    publisher.outbox.queue.head?.bind fun message =>
      message.value.encode.toOption.map (publisher.outbound message)
  else none

/-- The record that stands for what is given to a topic. -/
def Outbound.given (outbound : Outbound) : String × Stored :=
  (outbound.topic, .ofOutbound outbound)

namespace System

/-- The topic and the record that are given to the broker by an action. -/
def appended? (system : System) : Action → Option (String × Stored)
  | .append topic key payload => some (topic, .ofRaw key payload)
  | .enqueue outbound => some outbound.given
  | .step (.pump n) =>
      system.publishers[n]?.bind fun publisher =>
        (publisher.handed? (system.isPublisherStopped publisher)).map Outbound.given
  | _ => none

/-- What is given to a topic along a run, in the order of the appends. -/
def appendsTo (system : System) (topic : String) : List Action → List Stored
  | [] => []
  | action :: rest =>
      ((system.appended? action).toList.filter fun given => given.1 = topic).map (·.2) ++
        (system.next action).appendsTo topic rest

/-- Whether a record is what was given to one of the appends of a run, with the number of
appends to its topic before that one as its offset. -/
def IsGiven (system : System) (actions : List Action) (record : Record) : Prop :=
  ∃ (topic : String) (offset : Nat) (given : Stored),
    (system.appendsTo topic actions)[offset]? = some given ∧
      record = given.toRecord ⟨topic, 0, offset⟩

end System

/-! ## Entries of a pump -/

/-- The entry of what is given to a broker. -/
def Broker.entry (broker : Broker) (given : String × Stored) : Entry :=
  ⟨given.1, broker.size given.1, given.2⟩

/-- A sink stores what it is given if it is the broker inside the process, and nothing otherwise. -/
theorem Sink.entriesOf_enqueue (sink : Sink) (now : Nat) (broker : Broker) (outbound : Outbound) :
    entriesOf (Publisher.appendedBy broker (sink.enqueue now broker outbound).2.2) =
      if sink = .memory then [broker.entry outbound.given] else [] := by
  cases sink with
  | memory =>
      simp only [enqueue, Publisher.appendedBy_append, if_true]
      rfl
  | scripted plan calls => simp [enqueue]
  | remote inTime pending => simp [enqueue]

namespace Publisher

variable {publisher after : Publisher} {now : Nat} {cancelled : Bool} {broker brokerAfter : Broker}
  {happenings : List Happening}

private theorem Published.entries {emptying : Bool} {message : Message}
    (published : publisher.Published now emptying broker message happenings after brokerAfter) :
    entriesOf happenings =
      if publisher.sink = .memory then
        (message.value.encode.toOption.map (publisher.outbound message)).toList.map
          fun outbound => broker.entry outbound.given
      else [] := by
  have handed {payload : Text.Bytes} {enqueued : Enqueued} {sink : Sink} {stored : Broker}
      (encoding : message.value.encode = .ok payload)
      (enqueuing : publisher.sink.enqueue now broker (publisher.outbound message payload) =
        (enqueued, sink, stored)) :
      entriesOf (appendedBy broker stored) =
        if publisher.sink = .memory then
          (message.value.encode.toOption.map (publisher.outbound message)).toList.map
            fun outbound => broker.entry outbound.given
        else [] := by
    have entries := publisher.sink.entriesOf_enqueue now broker (publisher.outbound message payload)
    rw [enqueuing] at entries
    rw [entries, encoding]
    rfl
  cases published with
  | unencodable encoding =>
      rw [encoding]
      exact (ite_self _).symm
  | @refused _ fault _ _ encoding enqueued =>
      have silent : entriesOf [.noted (.refused publisher.topic.name fault)] = [] := rfl
      rw [entriesOf_append, silent, List.append_nil]
      exact handed encoding enqueued
  | crashed encoding enqueued => exact handed encoding enqueued
  | taken encoding enqueued => exact handed encoding enqueued

private theorem handed?_of_not_ready (unready : publisher.pump.isAtMessage cancelled = false) :
    publisher.handed? cancelled = none := by
  simp [handed?, unready]

private theorem handed?_of_empty (empty : publisher.outbox.queue = []) :
    publisher.handed? cancelled = none := by
  simp [handed?, empty]

/-- A publisher that publishes the message at the head of its outbox stores what it hands over. -/
private theorem published_entries {outbox : Channel Message} {message : Message} {emptying : Bool}
    (ready : publisher.pump.isAtMessage cancelled = true)
    (popped : publisher.outbox.pop? = some (message, outbox))
    (published : { publisher with outbox := outbox }.publish now emptying broker message =
      (after, brokerAfter, happenings)) :
    entriesOf happenings =
      (publisher.handed? cancelled).toList.map fun outbound => broker.entry outbound.given := by
  obtain ⟨rest, shape, rfl⟩ := Channel.pop?_eq_some_iff.mp popped
  rw [(publish_published published).entries]
  unfold handed?
  by_cases memory : publisher.sink = .memory
  · simp only [memory, ready, shape, and_self, if_true, List.head?_cons, Option.bind_some]
    rfl
  · simp only [memory, false_and, if_false, Option.toList_none, List.map_nil]

/-- A step of a pump stores what the publisher hands over. -/
theorem pumpStep?_entries
    (moved : publisher.pumpStep? now cancelled broker = some (after, brokerAfter, happenings)) :
    entriesOf happenings =
      (publisher.handed? cancelled).toList.map fun outbound => broker.entry outbound.given := by
  cases pump : publisher.pump with
  | receiving =>
      simp only [pumpStep?, pump] at moved
      split at moved
      · rename_i stops
        cases moved
        rw [handed?_of_not_ready (by simp [pump, Pump.isAtMessage, stops])]
        rfl
      · rename_i goesOn
        split at moved
        · rename_i popped
          exact published_entries (by simp [pump, Pump.isAtMessage, goesOn]) popped
            (Option.some.inj moved)
        · rename_i unpopped
          split at moved
          · cases moved
          · cases moved
            rw [handed?_of_empty (Channel.pop?_eq_none_iff.mp unpopped)]
            rfl
  | emptying =>
      simp only [pumpStep?, pump] at moved
      split at moved
      · rename_i popped
        exact published_entries (by simp [pump, Pump.isAtMessage]) popped (Option.some.inj moved)
      · rename_i unpopped
        cases moved
        rw [handed?_of_empty (Channel.pop?_eq_none_iff.mp unpopped)]
        rfl
  | unstarted | missing | handing report emptying | flushing deadline released | finished result
  | gone =>
      have unready : publisher.pump.isAtMessage cancelled = false := by
        rw [pump]
        rfl
      rw [handed?_of_not_ready unready]
      cases pumpStep?_step moved with
      | stopped receiving =>
          rw [receiving] at pump
          cases pump
      | published emptying between shape publishing =>
          rw [between] at pump
          cases emptying <;> cases pump
      | handed reports notes handing => exact entriesOf_notes notes
      | emptied emptying empty => rfl
      | flushed notes flushing => exact entriesOf_notes notes

/-- A publisher whose pump cannot move hands nothing over. -/
theorem handed?_of_stuck (stuck : publisher.pumpStep? now cancelled broker = none) :
    publisher.handed? cancelled = none := by
  cases pump : publisher.pump with
  | receiving =>
      simp only [pumpStep?, pump] at stuck
      split at stuck
      · cases stuck
      · split at stuck
        · cases stuck
        · rename_i unpopped
          exact handed?_of_empty (Channel.pop?_eq_none_iff.mp unpopped)
  | emptying =>
      simp only [pumpStep?, pump] at stuck
      split at stuck
      · cases stuck
      · cases stuck
  | unstarted | missing | handing report emptying | flushing deadline released | finished result
  | gone =>
      apply handed?_of_not_ready
      rw [pump]
      rfl

end Publisher

namespace System

variable {system : System}

/-! ## Entries of an action -/

/-- Nothing but raw appends and the steps of pumps stores anything. -/
private theorem Effect.entries_eq_nil {action : Action} {reply : Reply} {after : System}
    {events : List Event} (effect : system.Effect action reply after events)
    (coded : action.isRaw = false) (unpumped : ∀ n, action ≠ .step (.pump n)) :
    storedIn events = [] := by
  cases effect with
  | publisher found changed =>
      rw [storedIn_eventsOf]
      cases changed with
      | pumped moved => exact absurd rfl (unpumped _)
      | drained moved =>
          obtain ⟨reports, drain, notes, _, rfl⟩ := Publisher.drainStep?_reports moved
          exact entriesOf_notes notes
      | closeStepped moved => exact (Publisher.closeStep?_step moved).entries
      | opened opens | sent sameKind taken | reserved given | filled sameKind placed
      | outboxDropped | closeBegun isHeld first | dropped | callsTaken scripted
      | flushReleased => rfl
  | consumer found changed =>
      rw [storedIn_eventsOf]
      exact changed.entries
  | appended topic key payload | enqueued outbound => cases coded
  | idle unsent unmoved | client found changed | registered kind name replied
  | publisherAdded making | consumerAdded making | clientAdded settings | pollsFailed reason
  | notified owes | scopeCancelled scope | passed milliseconds => rfl

private theorem storedIn_pumpStep (n : Nat) :
    storedIn (system.act (.step (.pump n))).2.2 =
      (system.appended? (.step (.pump n))).toList.map system.broker.entry := by
  simp only [act, step, step?, System.pumpStep?, appended?, Option.bind_eq_bind]
  cases there : system.publishers[n]? with
  | none => rfl
  | some publisher =>
      simp only [Option.bind_some, Option.toList_map, List.map_map]
      cases moved :
        publisher.pumpStep? system.now (system.isPublisherStopped publisher) system.broker with
      | none =>
          rw [Publisher.handed?_of_stuck moved]
          rfl
      | some result =>
          obtain ⟨after, broker, happenings⟩ := result
          simp only [Option.bind_some, Option.pure_def, storedIn_eventsOf]
          exact Publisher.pumpStep?_entries moved

/-- An action stores what it gives to the broker. -/
theorem storedIn_act (action : Action) :
    storedIn (system.act action).2.2 =
      (system.appended? action).toList.map system.broker.entry := by
  by_cases raw : action.isRaw = true
  · unfold Action.isRaw at raw
    split at raw
    · rfl
    · rfl
    · cases raw
  · by_cases pumps : ∃ n, action = .step (.pump n)
    · obtain ⟨n, rfl⟩ := pumps
      exact storedIn_pumpStep n
    · have nothing : system.appended? action = none := by
        unfold appended?
        split
        · exact absurd rfl raw
        · exact absurd rfl raw
        · exact absurd ⟨_, rfl⟩ pumps
        · rfl
      rw [nothing]
      exact (system.act_effect action).entries_eq_nil (Bool.eq_false_iff.mpr raw)
        fun n same => pumps ⟨n, same⟩

/-! ## Logs of a run -/

theorem log_next (topic : String) (action : Action) :
    (system.next action).broker.log topic =
      system.broker.log topic ++
        ((system.appended? action).toList.filter fun given => given.1 = topic).map (·.2) := by
  have stored : (system.next action).broker.appended =
      system.broker.appended ++ (system.appended? action).toList := by
    rw [(system.next_broker action).appended_eq, storedIn_act, List.map_map]
    exact congrArg _ (List.map_id _)
  simp only [Broker.log, stored, List.filter_append, List.map_append]

/-- The log of a topic is what was given to it. -/
theorem log_after (system : System) (topic : String) (actions : List Action) :
    (system.after actions).broker.log topic =
      system.broker.log topic ++ system.appendsTo topic actions := by
  induction actions generalizing system with
  | nil => exact (List.append_nil _).symm
  | cons action rest inductionHypothesis =>
      rw [after_cons, inductionHypothesis, log_next, appendsTo, List.append_assoc]

theorem log_ofRegistry_after (registry : Registry) (topic : String) (actions : List Action) :
    ((ofRegistry registry).after actions).broker.log topic =
      (ofRegistry registry).appendsTo topic actions := by
  rw [log_after]
  rfl

/-- A record that a client reads by an action is the one at its offset. -/
theorem found_of_recordIn {n : Nat} {action : Action} {record : Record}
    (read : system.recordIn n action = some record) :
    ∃ (topic : String) (offset : Nat) (stored : Stored),
      (system.broker.log topic)[offset]? = some stored ∧
        record = stored.toRecord ⟨topic, 0, offset⟩ := by
  cases there : system.clients[n]? with
  | none =>
      rw [recordIn_of_absent there] at read
      cases read
  | some client =>
      obtain ⟨moved, _, step⟩ := client_step there action
      generalize system.recordIn n action = found at step read
      cases step with
      | looked look =>
          cases recordOf_eq_some_iff.mp read
          cases look with
          | @read topic offset stored subscribed next inLog =>
              exact ⟨topic, offset, stored, inLog, rfl⟩
      | subscribed topic | closed | left spared => cases read

/-- A record that a client reads along a run is the one at its offset in the end. -/
theorem found_of_readBy {n : Nat} {actions : List Action} {record : Record}
    (read : record ∈ system.readBy n actions) :
    ∃ (topic : String) (offset : Nat) (stored : Stored),
      ((system.after actions).broker.log topic)[offset]? = some stored ∧
        record = stored.toRecord ⟨topic, 0, offset⟩ := by
  induction actions generalizing system with
  | nil => cases read
  | cons action rest inductionHypothesis =>
      rw [readBy_cons] at read
      rcases List.mem_append.mp read with now | later
      · obtain ⟨topic, offset, stored, found, same⟩ := found_of_recordIn (Option.mem_toList.mp now)
        exact ⟨topic, offset, stored,
          Broker.found_of_grown (system.log_grows_after (action :: rest) topic) found, same⟩
      · exact inductionHypothesis later

/--
Along any run the log of a topic is what was given to it, in order: each append gets the number
of those before it on the same topic as its offset, and whatever a client or a consumer reads is
what was given to the append with its offset.
-/
theorem appended_for_good (registry : Registry) (actions : List Action) :
    let system := ofRegistry registry
    let now := system.after actions
    (∀ topic, now.broker.log topic = system.appendsTo topic actions ∧
      now.broker.size topic = (system.appendsTo topic actions).length) ∧
    (∀ action, storedIn (now.act action).2.2 = (now.appended? action).toList.map fun given =>
      ⟨given.1, (system.appendsTo given.1 actions).length, given.2⟩) ∧
    (∀ topic key payload, (now.act (.append topic key payload)).1 =
      .offset (system.appendsTo topic actions).length) ∧
    (∀ outbound, (now.act (.enqueue outbound)).1 =
      .offset (system.appendsTo outbound.topic actions).length) ∧
    (∀ n, ∀ record ∈ system.readBy n actions, system.IsGiven actions record) ∧
    ∀ n consumer client record, now.consumers[n]? = some consumer →
      consumer.source = .memory client →
      ⟨.consumer n, .fetched record⟩ ∈ system.events actions → system.IsGiven actions record := by
  intro system now
  have log (topic : String) : now.broker.log topic = system.appendsTo topic actions :=
    log_ofRegistry_after registry topic actions
  have size (topic : String) : now.broker.size topic = (system.appendsTo topic actions).length :=
    congrArg List.length (log topic)
  refine ⟨fun topic => ⟨log topic, size topic⟩, ?_, ?_, ?_, ?_, ?_⟩
  · intro action
    rw [storedIn_act]
    apply List.map_congr_left
    intro given _
    rw [Broker.entry, size]
  · intro topic key payload
    rw [← size]
    rfl
  · intro outbound
    rw [← size]
    rfl
  · intro n record read
    obtain ⟨topic, offset, given, found, same⟩ := found_of_readBy read
    exact ⟨topic, offset, given, log topic ▸ found, same⟩
  · intro n consumer client record there memory fetched
    have handles := handles_of_event (readersFollow_ofRegistry registry) fetched there memory
    cases handles with
    | @fetched offset stored found => exact ⟨_, offset, stored, log _ ▸ found, rfl⟩

/-- A raw record, one for another topic and a message of a publisher are appended. A client
reads two records, with a commit in between that points nowhere, and a consumer fetches the
first one. -/
def writtenAndRead : List Action :=
  [.addPublisher .unit (.memory []) "scope", .openPublisher 0, .send 0 (.ofPayload .unit),
    .append "beat" (some "raw") (Scan.letters "nil"), .enqueue ⟨"other", none, [], .empty⟩,
    .step (.pump 0), .addClient { Settings.Consumer.default with group := some "g" },
    .subscribe 0 "beat", .fetch 0, .commitClient 0 ⟨"beat", 0, -7⟩, .fetch 0,
    .addConsumer .unit (.memory []) "scope", .openConsumer 0, .step (.pollLoop 0),
    .step (.pollLoop 0)]

/-- The second record of a topic is what a publisher has made of its message. -/
theorem appended_for_good_of_two_writers :
    let system := ofRegistry ⟨[(.unit, "beat")], [("beat", .unit)]⟩
    (system.after writtenAndRead).broker.size "beat" = 2 ∧
      ((system.readBy 0 writtenAndRead).map Record.token = [⟨"beat", 0, 0⟩, ⟨"beat", 0, 1⟩] ∧
        ∀ record ∈ system.readBy 0 writtenAndRead, system.IsGiven writtenAndRead record) ∧
      ∃ record, ⟨.consumer 0, .fetched record⟩ ∈ system.events writtenAndRead ∧
        system.IsGiven writtenAndRead record := by
  intro system
  obtain ⟨logs, _, _, _, read, fetched⟩ :=
    appended_for_good ⟨[(.unit, "beat")], [("beat", .unit)]⟩ writtenAndRead
  have source : (system.after writtenAndRead).consumers[0]?.map Consumer.source =
      some (.memory ⟨none, .earliest, some "beat", some 1, 1⟩) := by
    decide +kernel
  obtain ⟨consumer, there, memory⟩ := Option.map_eq_some_iff.mp source
  have first : ⟨.consumer 0, .fetched ((Stored.ofRaw (some "raw") (Scan.letters "nil")).toRecord
      ⟨"beat", 0, 0⟩)⟩ ∈ system.events writtenAndRead := by
    decide +kernel
  refine ⟨?_, ⟨by decide +kernel, read 0⟩, ?_⟩
  · rw [(logs "beat").2]
    decide +kernel
  · exact ⟨_, first, fetched 0 consumer _ _ there memory first⟩

end System

end TopicBus
