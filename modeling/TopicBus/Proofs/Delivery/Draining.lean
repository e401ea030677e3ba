import TopicBus.Proofs.Delivery.Following

/-!
# Reading to the end

A consumer that goes on needs nobody else to get everything that there is. As long as something
is left, its loop can move or the application can receive, perhaps after some time, and each
such step leaves less to be done. Records that do not decode are only passed over.
-/

namespace TopicBus

/-- Whether an action is a step of the loop of a consumer, its application receiving, or the
passing of time. -/
def Action.isReading (n : Nat) : Action → Bool
  | .receive m | .step (.pollLoop m) => m = n
  | .pass _ => true
  | _ => false

/-- What is left to be done for a consumer at a position. A record that is fetched may have to
be put into the inbox and received after that. -/
def Consumer.remaining (consumer : Consumer) (broker : Broker) (position : Int) : Nat :=
  3 * ((broker.size consumer.topic.name : Int) - position).toNat +
    2 * consumer.loop.held?.toList.length + consumer.inbox.queue.length

/-- A consumer has started, and it goes on: it was not stopped, the broker answers, and the
application has the inbox. -/
structure System.IsReading (system : System) (n : Nat) (settings : Settings.Consumer)
    (topic : Topic) (first : Broker) (consumer : Consumer) (client : Client) : Prop where
  there : system.consumers[n]? = some consumer
  follows : consumer.Follows settings topic client system.broker (some first)
  isRunning : consumer.loop.isRunning = true
  goesOn : system.isConsumerStopped consumer = false
  works : system.broker.failure? = none
  hasReceiver : consumer.inbox.hasReceiver = true

namespace System

variable {system : System} {n : Nat} {settings : Settings.Consumer} {topic : Topic}
  {first : Broker} {consumer after : Consumer} {client : Client}

/-! ## The bus after a reading action -/

theorem next_pollLoop {happenings : List Happening}
    (there : system.consumers[n]? = some consumer)
    (moved : consumer.loopStep? system.now (system.isConsumerStopped consumer) system.broker =
      some (after, happenings)) :
    system.next (.step (.pollLoop n)) = system.setConsumer n after := by
  have stepped := loopStep?_eq_some_iff.mpr ⟨consumer, after, happenings, there, moved, rfl, rfl⟩
  simp only [next, act, step, step?, stepped]

theorem next_receive {message : Message} (there : system.consumers[n]? = some consumer)
    (hasReceiver : consumer.inbox.hasReceiver = true)
    (taken : consumer.receive? = some (message, after)) :
    system.next (.receive n) = system.setConsumer n after := by
  simp only [next, act, receive, there, Consumer.canReceive_of_hasReceiver hasReceiver, if_true,
    taken]

theorem broker_of_isReading {action : Action} (reading : action.isReading n = true) :
    (system.next action).broker = system.broker := by
  cases action with
  | receive m =>
      simp only [next, act, receive]
      split
      · rfl
      · split
        · split
          · rfl
          · rfl
        · rfl
  | step task =>
      cases task with
      | pollLoop m =>
          simp only [next, act, step, step?]
          split
          · rfl
          · rename_i stepped
            obtain ⟨_, _, _, _, _, rfl, _⟩ := loopStep?_eq_some_iff.mp stepped
            rfl
      | _ => cases reading
  | pass milliseconds => rfl
  | _ => cases reading

theorem broker_after_reading {actions : List Action}
    (own : ∀ action ∈ actions, action.isReading n = true) :
    (system.after actions).broker = system.broker := by
  induction actions generalizing system with
  | nil => rfl
  | cons action rest inductionHypothesis =>
      rw [after_cons, inductionHypothesis fun later member => own later (.tail _ member)]
      exact broker_of_isReading (own action (.head _))

private theorem setConsumer_there (there : system.consumers[n]? = some consumer) :
    (system.setConsumer n after).consumers[n]? = some after := by
  obtain ⟨inside, _⟩ := List.getElem?_eq_some_iff.mp there
  exact List.getElem?_set_self inside

/-! ## Single steps -/

namespace IsReading

variable (reading : system.IsReading n settings topic first consumer client)
include reading

/-- A poll that goes on without a look leaves a consumer that goes on. -/
theorem turn {loop : PollLoop} (turns : consumer.Turns system.now system.broker loop)
    (moved : consumer.loopStep? system.now false system.broker =
      some ({ consumer with loop := loop }, [])) :
    (system.next (.step (.pollLoop n))).IsReading n settings topic first
      { consumer with loop := loop } client := by
  rw [← reading.goesOn] at moved
  rw [next_pollLoop reading.there moved]
  exact ⟨setConsumer_there reading.there, reading.follows.goOn turns, turns.leadsTo.1,
    reading.goesOn, reading.works, reading.hasReceiver⟩

/-- A loop that is to poll looks at its second step. -/
theorem begin (polling : consumer.loop = .polling) :
    (system.next (.step (.pollLoop n))).IsReading n settings topic first
      { consumer with loop := .looking (consumer.source.awaited system.broker) } client :=
  reading.turn (.begun polling) (by simp [Consumer.loopStep?, polling])

theorem pass (milliseconds : Nat) :
    (system.next (.pass milliseconds)).IsReading n settings topic first consumer client :=
  ⟨reading.there, reading.follows, reading.isRunning, reading.goesOn, reading.works,
    reading.hasReceiver⟩

/-- A consumer that holds nothing looks into its source after some steps of its own, with nothing in
its inbox changed. -/
theorem looks (holdsNothing : consumer.loop.held? = none) :
    ∃ actions, (∀ action ∈ actions, action.isReading n = true) ∧
      ∃ loop : PollLoop, (system.after actions).IsReading n settings topic first
          { consumer with loop := loop } client ∧
        Consumer.isAsking { consumer with loop := loop } = true ∧ loop.held? = none := by
  cases loop : consumer.loop with
  | polling =>
      exact ⟨[.step (.pollLoop n)], by simp [Action.isReading], _, reading.begin loop, rfl, rfl⟩
  | looking notices | lookingAgain =>
      refine ⟨[], by simp, consumer.loop, reading, by simp [Consumer.isAsking, loop], ?_⟩
      exact holdsNothing
  | waiting deadline notices =>
      by_cases noticed : notices.any (· < system.broker.notices) = true
      · obtain ⟨seen, rfl, less⟩ := (Option.any_eq_true _ _).mp noticed
        exact ⟨[.step (.pollLoop n)], by simp [Action.isReading], _,
          reading.turn (.woken loop (by simpa using less))
            (by simp [Consumer.loopStep?, loop, noticed]), rfl, rfl⟩
      · have due : deadline ≤ (system.next (.pass deadline)).now := Nat.le_add_left _ _
        have expired := (reading.pass deadline).turn (.expired loop due) (by
          simp only [Bool.not_eq_true] at noticed
          have still : (system.next (.pass deadline)).broker = system.broker := rfl
          simp [Consumer.loopStep?, loop, still, noticed, due])
        exact ⟨[.pass deadline, .step (.pollLoop n), .step (.pollLoop n)],
          by simp [Action.isReading], _, expired.begin rfl, rfl, rfl⟩
  | holding message =>
      rw [loop] at holdsNothing
      cases holdsNothing
  | unstarted | missing | ended | crashed =>
      have running := reading.isRunning
      rw [loop] at running
      cases running

theorem receive {message : Message} {rest : List Message}
    (shape : consumer.inbox.queue = message :: rest) :
    (system.next (.receive n)).IsReading n settings topic first
      { consumer with
        inbox := { consumer.inbox with queue := rest }
        receipts := consumer.receipts ++ [.ofMessage message] } client := by
  have popped : consumer.inbox.pop? = some (message, { consumer.inbox with queue := rest }) :=
    Channel.pop?_eq_some_iff.mpr ⟨rest, shape, rfl⟩
  have taken : consumer.receive? = some (message,
      { consumer with
        inbox := { consumer.inbox with queue := rest }
        receipts := consumer.receipts ++ [.ofMessage message] }) := by
    simp [Consumer.receive?, popped]
  rw [next_receive reading.there reading.hasReceiver taken]
  exact ⟨setConsumer_there reading.there, reading.follows.receive taken, reading.isRunning,
    reading.goesOn, reading.works, reading.hasReceiver⟩

theorem put {message : Message} (holds : consumer.loop = .holding message)
    (empty : consumer.inbox.queue = []) :
    (system.next (.step (.pollLoop n))).IsReading n settings topic first
      { consumer with loop := .polling, inbox := consumer.inbox.push message } client := by
  have hasRoom : consumer.inbox.hasRoom = true := by
    simp [Channel.hasRoom, empty, reading.follows.hasPlaces]
  have moved : consumer.loopStep? system.now (system.isConsumerStopped consumer) system.broker =
      some ({ consumer with loop := .polling, inbox := consumer.inbox.push message }, []) := by
    simp [Consumer.loopStep?, holds, reading.goesOn, reading.hasReceiver, hasRoom]
  rw [next_pollLoop reading.there moved]
  exact ⟨setConsumer_there reading.there, reading.follows.put holds reading.hasReceiver, rfl,
    reading.goesOn, reading.works, reading.hasReceiver⟩

theorem fetch {offset : Nat} {stored : Stored}
    (asking : consumer.isAsking = true)
    (placed : client.position = some offset)
    (found : (system.broker.log consumer.topic.name)[offset]? = some stored) :
    ∃ client, client.position = some ((offset : Int) + 1) ∧
      (system.next (.step (.pollLoop n))).IsReading n settings topic first
        { consumer with
          source := .memory client
          loop := .afterRecord (consumer.topic.message? offset stored) } client := by
  have subscribed : client.topic = some consumer.topic.name := by
    rw [reading.follows.sameTopic]
    exact reading.follows.subscribed reading.isRunning
  have next : client.nextPosition system.broker consumer.topic.name = .ok offset := by
    simp [Client.nextPosition, placed]
  have there : Client.recordAt? system.broker consumer.topic.name offset =
      some (stored.toRecord ⟨consumer.topic.name, 0, offset⟩) :=
    Client.recordAt?_eq_some_iff.mpr ⟨offset, stored, rfl, found, rfl⟩
  have taking : client.next system.broker =
      (.ok (some (stored.toRecord ⟨consumer.topic.name, 0, offset⟩)), client.passed offset) := by
    simp only [Client.next, reading.works, subscribed, next, there, Client.passed]
  have handled := Consumer.handle_eq
    { consumer with source := .memory (client.passed offset) } offset stored
  have polled : consumer.look system.now system.broker =
      ({ consumer with
          source := .memory (client.passed offset)
          loop := .afterRecord (consumer.topic.message? offset stored) },
        .fetched (stored.toRecord ⟨consumer.topic.name, 0, offset⟩) ::
          (consumer.topic.skipNote? offset stored).toList.map .noted) := by
    simp only [Consumer.look, Source.poll, reading.follows.memory, taking]
    exact handled
  have moved : consumer.loopStep? system.now false system.broker = some _ :=
    Consumer.loopStep?_asking asking
  rw [polled, ← reading.goesOn] at moved
  have comes : consumer.PollOf client system.now system.broker _ _ :=
    .fetched reading.works next found
  obtain ⟨reached, followsAfter⟩ := reading.follows.poll asking comes
  have same : reached = client.passed offset := by
    have memory := followsAfter.memory
    cases memory
    rfl
  subst same
  refine ⟨client.passed offset, rfl, ?_⟩
  rw [next_pollLoop reading.there moved]
  refine ⟨setConsumer_there reading.there, ?_, PollLoop.isRunning_afterRecord _, reading.goesOn,
    reading.works, reading.hasReceiver⟩
  rw [Option.some_or] at followsAfter
  exact followsAfter

end IsReading

/-- A poll that has a place to look at leaves a consumer that goes on. -/
theorem isReading_next_poll {polled : Option Broker} {position : Int}
    (there : system.consumers[n]? = some consumer)
    (follows : consumer.Follows settings topic client system.broker polled)
    (polling : system.isPolling consumer = true) (hasReceiver : consumer.inbox.hasReceiver = true)
    (placed : client.nextPosition system.broker topic.name = .ok position) :
    ∃ first consumerAfter clientAfter, polled.or (some system.broker) = some first ∧
      (system.next (.step (.pollLoop n))).IsReading n settings topic first consumerAfter
        clientAfter := by
  simp only [isPolling, Bool.and_eq_true, Bool.not_eq_true', Option.isNone_iff_eq_none] at polling
  obtain ⟨⟨asking, goesOn⟩, works⟩ := polling
  obtain rfl := follows.sameTopic
  have comes : consumer.PollOf client system.now system.broker _ _ := follows.pollOf asking
  obtain ⟨clientAfter, followsAfter⟩ := follows.poll asking comes
  simp only [works, Option.isNone_none, if_true] at followsAfter
  obtain ⟨first, settled⟩ : ∃ first, polled.or (some system.broker) = some first := by
    cases polled with
    | none => exact ⟨_, rfl⟩
    | some first => exact ⟨first, rfl⟩
  rw [settled] at followsAfter
  have moved : consumer.loopStep? system.now (system.isConsumerStopped consumer) system.broker =
      some ((consumer.look system.now system.broker).1,
        (consumer.look system.now system.broker).2) := by
    rw [goesOn]
    exact Consumer.loopStep?_asking asking
  rw [next_pollLoop there moved]
  obtain ⟨isRunning, inbox, stopped, scope⟩ := comes.goesOn works placed
  refine ⟨first, (consumer.look system.now system.broker).1, clientAfter, settled,
    setConsumer_there there, followsAfter, isRunning, ?_, works, ?_⟩
  · unfold isConsumerStopped
    rw [stopped, scope]
    exact goesOn
  · rw [inbox]
    exact hasReceiver

/-! ## Everything is read -/

namespace IsReading

variable (reading : system.IsReading n settings topic first consumer client)
include reading

/-- Where nothing is left, everything from the start on was received. -/
theorem received_all {start position : Int} (whole : 0 ≤ start)
    (reads : consumer.Reads client system.broker start position)
    (nothing : consumer.remaining system.broker position = 0) :
    consumer.received = system.broker.messagesFrom topic start := by
  unfold Consumer.remaining at nothing
  have empty : consumer.inbox.queue = [] := List.eq_nil_of_length_eq_zero (by omega)
  have holdsNothing : consumer.loop.held?.toList = [] :=
    List.eq_nil_of_length_eq_zero (by omega)
  have complete := reads.complete reading.isRunning reading.hasReceiver
  rw [empty, holdsNothing, List.append_nil, List.append_nil] at complete
  rw [complete, reading.follows.sameTopic]
  rcases reads.inside with same | ⟨_, _, within⟩
  · have beyond : (system.broker.log topic.name).length ≤ start.toNat := by
      have size := reading.follows.sameTopic
      simp only [Broker.size] at nothing
      rw [size] at nothing
      omega
    rw [same, Broker.messagesBetween_self, Broker.messagesFrom, List.drop_of_length_le beyond]
    rfl
  · rw [reading.follows.sameTopic] at nothing within
    have atEnd : position = system.broker.size topic.name := by omega
    rw [atEnd, Broker.messagesBetween_size]

/-- As long as something is left, some reading leaves less. -/
theorem advance {start position : Int} (whole : 0 ≤ start)
    (reads : consumer.Reads client system.broker start position)
    (left : consumer.remaining system.broker position ≠ 0) :
    ∃ actions, (∀ action ∈ actions, action.isReading n = true) ∧
      ∃ consumerAfter clientAfter positionAfter,
        (system.after actions).IsReading n settings topic first consumerAfter clientAfter ∧
        clientAfter.position = some positionAfter ∧
        consumerAfter.remaining system.broker positionAfter <
          consumer.remaining system.broker position := by
  cases shape : consumer.inbox.queue with
  | cons message rest =>
      refine ⟨[.receive n], by simp [Action.isReading], _, client, position,
        reading.receive shape, reads.placed, ?_⟩
      simp [Consumer.remaining, shape]
  | nil =>
      cases held : consumer.loop.held? with
      | some message =>
          have holds : consumer.loop = .holding message := by
            cases loop : consumer.loop <;> simp_all [PollLoop.held?]
          refine ⟨[.step (.pollLoop n)], by simp [Action.isReading], _, client, position,
            reading.put holds shape, reads.placed, ?_⟩
          simp [Consumer.remaining, shape, holds, Channel.push, PollLoop.held?]
      | none =>
          -- Nothing is on its way, so a record has to be left in the log.
          have more : position < system.broker.size consumer.topic.name := by
            simp only [Consumer.remaining, shape, held, Option.toList_none, List.length_nil] at left
            omega
          have begun : 0 ≤ position := by
            rcases reads.inside with same | ⟨_, begun, _⟩
            · omega
            · omega
          obtain ⟨offset, rfl⟩ := Int.eq_ofNat_of_zero_le begun
          have inLog : offset < (system.broker.log consumer.topic.name).length := by
            simp only [Broker.size] at more
            omega
          have found := List.getElem?_eq_getElem inLog
          obtain ⟨actions, own, loop, looking, asking, heldNothing⟩ := reading.looks held
          have same : (system.after actions).broker = system.broker := broker_after_reading own
          obtain ⟨clientAfter, placed, readingAfter⟩ :=
            looking.fetch asking reads.placed (by rw [same]; exact found)
          have joined : system.after (actions ++ [.step (.pollLoop n)]) =
              (system.after actions).next (.step (.pollLoop n)) := after_append _ _ _
          rw [← joined] at readingAfter
          refine ⟨actions ++ [.step (.pollLoop n)], ?_, _, clientAfter, _, readingAfter, placed, ?_⟩
          · intro action member
            rcases List.mem_append.mp member with early | last
            · exact own action early
            · obtain rfl := List.mem_singleton.mp last
              simp [Action.isReading]
          · have few : (consumer.topic.message? offset
                (system.broker.log consumer.topic.name)[offset]).toList.length ≤ 1 := by
              cases consumer.topic.message? offset _ <;> simp
            simp only [Consumer.remaining, shape, held, PollLoop.held?_afterRecord,
              Option.toList_none, List.length_nil]
            omega

end IsReading

theorem IsReading.reads (reading : system.IsReading n settings topic first consumer client)
    {start : Int} (starts : first.start? settings topic.name = some start) :
    ∃ position, consumer.Reads client system.broker start position := by
  have progress := reading.follows.progress
  cases progress with
  | refused nowhere untouched isEnded =>
      have running := reading.isRunning
      rw [isEnded] at running
      cases running
  | started begins reads =>
      rw [reading.follows.sameTopic, starts] at begins
      cases begins
      exact ⟨_, reads⟩

/-- A consumer that goes on receives everything from its start on, with nothing done but its own
reading. -/
theorem IsReading.drains {start : Int} (whole : 0 ≤ start)
    (starts : first.start? settings topic.name = some start)
    (reading : system.IsReading n settings topic first consumer client) :
    ∃ actions, (∀ action ∈ actions, action.isReading n = true) ∧
      (system.after actions).broker = system.broker ∧
      ∃ consumerAfter, (system.after actions).consumers[n]? = some consumerAfter ∧
        consumerAfter.received = system.broker.messagesFrom topic start := by
  obtain ⟨position, reads⟩ := reading.reads starts
  induction left : consumer.remaining system.broker position using Nat.strongRecOn
    generalizing system consumer client position with
  | ind work inductionHypothesis =>
      by_cases nothing : work = 0
      · subst nothing
        exact ⟨[], by simp, rfl, consumer, reading.there, reading.received_all whole reads left⟩
      · rw [← left] at nothing
        obtain ⟨actions, own, consumerAfter, clientAfter, positionAfter, readingAfter, placed,
          less⟩ := reading.advance whole reads nothing
        have sameBroker : (system.after actions).broker = system.broker := broker_after_reading own
        obtain ⟨reached, readsAfter⟩ := readingAfter.reads starts
        obtain rfl : reached = positionAfter := by
          have same := readsAfter.placed
          rw [placed] at same
          cases same
          rfl
        rw [left, ← sameBroker] at less
        obtain ⟨rest, ownRest, sameAfter, final, there, received⟩ :=
          inductionHypothesis _ less readingAfter reached readsAfter rfl
        refine ⟨actions ++ rest, ?_, ?_, final, ?_, ?_⟩
        · intro action member
          rcases List.mem_append.mp member with early | late
          · exact own action early
          · exact ownRest action late
        · rw [after_append, sameAfter, sameBroker]
        · rw [after_append]
          exact there
        · rw [received, sameBroker]

end System

end TopicBus
