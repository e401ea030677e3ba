import TopicBus.Proofs.Delivery.Fetching
import TopicBus.Proofs.Delivery.InOrder

/-!
# What becomes of the records that a consumer fetches

As long as the application has the inbox, every record that a consumer of the broker inside the
process has fetched is accounted for: its message was received, waits in the inbox or is held by
the loop, or the record has no message. Only one message can be lost, the one that the loop
holds while it is told to stop. The inbox has a fixed number of places, so a consumer whose
messages nobody takes does not fetch on.
-/

namespace TopicBus

/-- Whether the payload of a record decodes to the kind of a topic. -/
def Topic.decodes (topic : Topic) (record : Record) : Bool :=
  record.payload.any fun payload => (Payload.decode topic.kind payload).toOption.isSome

theorem Topic.decodes_toRecord (topic : Topic) (offset : Nat) (stored : Stored) :
    topic.decodes (stored.toRecord ⟨topic.name, 0, offset⟩) =
      (topic.message? offset stored).isSome := by
  unfold decodes message? Stored.toRecord
  cases stored.payload with
  | none => rfl
  | some payload =>
      cases decoding : Payload.decode topic.kind payload with
      | error flaw => simp [decoding, Except.toOption]
      | ok value => simp [decoding, Except.toOption]

namespace Consumer

/-! ## The balance of a consumer -/

/-- How the records that a consumer has fetched are accounted for. -/
structure Balances (settings : Settings.Consumer) (consumer : Consumer) (client : Client)
    (records : List Record) (isStopped : Bool) : Prop where
  counted : client.fetched = records.length
  buffer : consumer.buffer = settings.bufferSize
  capacity : consumer.inbox.capacity = max settings.bufferSize 1
  bounded : consumer.inbox.queue.length ≤ consumer.inbox.capacity
  unbegun : consumer.loop = .unstarted →
    records = [] ∧ consumer.received ++ consumer.inbox.queue = []
  balanced : consumer.inbox.hasReceiver = true →
    ∃ lost, records.countP consumer.topic.decodes =
        consumer.received.length + consumer.inbox.queue.length +
          consumer.loop.held?.toList.length + lost ∧
      lost ≤ 1 ∧ (lost ≠ 0 → consumer.loop.isRunning = false ∧ isStopped = true)

variable {settings : Settings.Consumer} {consumer after : Consumer}
  {client clientAfter : Client} {records : List Record} {isStopped stopsAfter : Bool}

theorem balances_create (topic : Topic) (scope : String) :
    (create topic (.memory (.ofSettings settings)) settings scope).Balances settings
      (.ofSettings settings) [] isStopped where
  counted := rfl
  buffer := rfl
  capacity := rfl
  bounded := Nat.zero_le _
  unbegun _ := ⟨rfl, rfl⟩
  balanced hasReceiver := by cases hasReceiver

/-- What changes a consumer only in its bookkeeping keeps the balance. -/
theorem Balances.same (balances : consumer.Balances settings client records isStopped)
    (fetched : clientAfter.fetched = client.fetched) (topic : after.topic = consumer.topic)
    (buffer : after.buffer = consumer.buffer) (received : after.received = consumer.received)
    (inbox : after.inbox = consumer.inbox) (loop : after.loop = consumer.loop)
    (stops : isStopped = true → stopsAfter = true) :
    after.Balances settings clientAfter records stopsAfter := by
  refine ⟨fetched.trans balances.counted, buffer.trans balances.buffer, ?_, ?_, ?_, ?_⟩
  · rw [inbox]
    exact balances.capacity
  · rw [inbox]
    exact balances.bounded
  · rw [loop, received, inbox]
    exact balances.unbegun
  · rw [topic, received, inbox, loop]
    intro hasReceiver
    obtain ⟨lost, whole, few, isOver⟩ := balances.balanced hasReceiver
    exact ⟨lost, whole, few, fun some => ⟨(isOver some).1, stops (isOver some).2⟩⟩

private theorem Client.fetched_subscribe (client : Client) (topic : String) :
    (client.subscribe topic).fetched = client.fetched := by
  unfold Client.subscribe
  split
  · rfl
  · rfl

private theorem Balances.opens {result : Option (Except Fault Unit)}
    (balances : consumer.Balances settings client records isStopped)
    (memory : consumer.source = .memory client) (opens : consumer.Opens result after) :
    ∃ clientAfter, after.source = .memory clientAfter ∧
      after.Balances settings clientAfter records isStopped := by
  have subscribed : consumer.source.subscribe consumer.topic.name =
      (.ok (), .memory (client.subscribe consumer.topic.name)) := by
    rw [memory]
    rfl
  have counted := (Client.fetched_subscribe client consumer.topic.name).trans balances.counted
  cases opens with
  | again isOpened => exact ⟨client, memory, balances⟩
  | refused unstarted subscribing =>
      rw [subscribed] at subscribing
      cases subscribing
  | crashed unstarted subscribing tooLarge =>
      rw [subscribed] at subscribing
      cases subscribing
      refine ⟨_, rfl, counted, balances.buffer, balances.capacity, balances.bounded, by simp, ?_⟩
      intro hasReceiver
      have whole := balances.balanced hasReceiver
      rw [unstarted] at whole
      exact whole
  | started unstarted subscribing fits =>
      rw [subscribed] at subscribing
      cases subscribing
      obtain ⟨rfl, nothing⟩ := balances.unbegun unstarted
      have unreceived : consumer.receipts.map Receipt.message = [] :=
        (List.append_eq_nil_iff.mp nothing).1
      refine ⟨_, rfl, counted, balances.buffer, ?_, Nat.zero_le _, by simp, fun _ => ⟨0, ?_⟩⟩
      · rw [← balances.buffer]
        rfl
      · simp [received, unreceived, Channel.ofBuffer, PollLoop.held?]

private theorem Balances.receive {message : Message}
    (balances : consumer.Balances settings client records isStopped)
    (taken : consumer.receive? = some (message, after)) :
    after.Balances settings client records isStopped := by
  obtain ⟨⟨head, inbox⟩, popped, same⟩ := Option.map_eq_some_iff.mp taken
  cases same
  obtain ⟨rest, shape, rfl⟩ := Channel.pop?_eq_some_iff.mp popped
  have bounded := balances.bounded
  rw [shape, List.length_cons] at bounded
  refine ⟨balances.counted, balances.buffer, balances.capacity, Nat.le_of_succ_le bounded, ?_, ?_⟩
  · intro unstarted
    have nothing := (balances.unbegun unstarted).2
    rw [shape] at nothing
    simp at nothing
  · intro hasReceiver
    obtain ⟨lost, whole, isOver⟩ := balances.balanced hasReceiver
    refine ⟨lost, whole.trans ?_, isOver⟩
    simp only [received, shape, List.map_append, List.length_append, List.length_cons,
      List.length_map, List.map_cons, List.map_nil, List.length_nil]
    omega

private theorem Balances.shut {rest : List Message}
    (balances : consumer.Balances settings client records isStopped)
    (kept : rest <+: consumer.inbox.queue) (takesRest : Bool) :
    (consumer.shut rest takesRest).Balances settings client records isStopped := by
  refine ⟨balances.counted, balances.buffer, balances.capacity,
    kept.length_le.trans balances.bounded, ?_, ?_⟩
  · intro unstarted
    obtain ⟨unread, nothing⟩ := balances.unbegun unstarted
    obtain ⟨unreceived, empty⟩ := List.append_eq_nil_iff.mp nothing
    rw [empty] at kept
    exact ⟨unread, List.append_eq_nil_iff.mpr ⟨unreceived, List.prefix_nil.mp kept⟩⟩
  · intro hasReceiver
    cases hasReceiver

/-! ## Steps of the loop -/

/-- A loop that still goes on has lost nothing. -/
private theorem Balances.whole
    (balances : consumer.Balances settings client records isStopped)
    (isRunning : consumer.loop.isRunning = true) (hasReceiver : consumer.inbox.hasReceiver = true) :
    records.countP consumer.topic.decodes =
      consumer.received.length + consumer.inbox.queue.length +
        consumer.loop.held?.toList.length := by
  obtain ⟨lost, whole, _, isOver⟩ := balances.balanced hasReceiver
  by_cases none : lost = 0
  · rw [whole, none]
    rfl
  · rw [(isOver none).1] at isRunning
    cases isRunning

/-- A loop that ends loses what it holds, if anything. -/
private theorem Balances.endLoop
    (balances : consumer.Balances settings client records isStopped)
    (isRunning : consumer.loop.isRunning = true)
    (reason : consumer.loop.held? ≠ none → consumer.inbox.hasReceiver = true → isStopped = true) :
    (consumer.endLoop .ended).Balances settings client records isStopped := by
  refine ⟨balances.counted, balances.buffer, balances.capacity, balances.bounded, ?_, ?_⟩
  · intro unstarted
    cases unstarted
  · intro hasReceiver
    have whole := balances.whole isRunning hasReceiver
    refine ⟨consumer.loop.held?.toList.length, whole, ?_, ?_⟩
    · cases consumer.loop.held? with
      | none => exact Nat.zero_le _
      | some message => exact Nat.le_refl _
    · intro some
      refine ⟨rfl, reason ?_ hasReceiver⟩
      intro none
      rw [none] at some
      exact some rfl

/-- A loop that holds nothing before and afterwards has lost nothing. -/
private theorem Balances.goOn {source : Source} {loop : PollLoop}
    (balances : consumer.Balances settings client records isStopped)
    (isRunning : consumer.loop.isRunning = true) (holdsNothing : consumer.loop.held? = none)
    (goesOn : loop.isRunning = true) (stillNothing : loop.held? = none)
    (unfetched : clientAfter.fetched = client.fetched) :
    Balances settings { consumer with source := source, loop := loop } clientAfter records
      isStopped := by
  refine ⟨unfetched.trans balances.counted, balances.buffer, balances.capacity, balances.bounded,
    ?_, ?_⟩
  · intro unstarted
    exact absurd unstarted (PollLoop.ne_unstarted_of_isRunning goesOn)
  · intro hasReceiver
    have whole := balances.whole isRunning hasReceiver
    rw [holdsNothing] at whole
    refine ⟨0, ?_, Nat.zero_le _, fun some => absurd rfl some⟩
    rw [stillNothing]
    exact whole

private theorem Balances.put {message : Message}
    (balances : consumer.Balances settings client records isStopped)
    (holds : consumer.loop = .holding message) (hasRoom : consumer.inbox.hasRoom = true) :
    Balances settings { consumer with loop := .polling, inbox := consumer.inbox.push message }
      client records isStopped := by
  have isRunning : consumer.loop.isRunning = true := by
    rw [holds]
    rfl
  have room : consumer.inbox.queue.length < consumer.inbox.capacity := by
    have free :
        consumer.inbox.queue.length + consumer.inbox.reserved < consumer.inbox.capacity := by
      simpa [Channel.hasRoom] using hasRoom
    omega
  refine ⟨balances.counted, balances.buffer, balances.capacity, ?_, ?_, ?_⟩
  · simp only [Channel.push, List.length_append, List.length_singleton]
    exact room
  · intro unstarted
    cases unstarted
  · intro hasReceiver
    have whole := balances.whole isRunning hasReceiver
    rw [holds] at whole
    refine ⟨0, whole.trans ?_, Nat.zero_le _, fun some => absurd rfl some⟩
    simp [received, Channel.push, PollLoop.held?, Nat.add_assoc]

/-- A poll that finds a record holds its message, if it has one. -/
private theorem Balances.fetch {offset : Nat} {stored : Stored} {source : Source}
    (balances : consumer.Balances settings client records isStopped)
    (isRunning : consumer.loop.isRunning = true) (holdsNothing : consumer.loop.held? = none) :
    Balances settings
      { consumer with
        source := source
        loop := .afterRecord (consumer.topic.message? offset stored) }
      (client.passed offset) (records ++ [stored.toRecord ⟨consumer.topic.name, 0, offset⟩])
      isStopped := by
  refine ⟨?_, balances.buffer, balances.capacity, balances.bounded, ?_, ?_⟩
  · simp [Client.passed, balances.counted]
  · intro unstarted
    exact absurd unstarted (PollLoop.ne_unstarted_of_isRunning (PollLoop.isRunning_afterRecord _))
  · intro hasReceiver
    have whole := balances.whole isRunning hasReceiver
    rw [holdsNothing] at whole
    refine ⟨0, ?_, Nat.zero_le _, fun some => absurd rfl some⟩
    rw [List.countP_append, whole, List.countP_singleton, Topic.decodes_toRecord,
      PollLoop.held?_afterRecord]
    cases consumer.topic.message? offset stored with
    | none => rfl
    | some message => rfl

private theorem Balances.poll {now : Nat} {broker : Broker} {happenings : List Happening}
    (balances : consumer.Balances settings client records isStopped)
    (memory : consumer.source = .memory client) (asking : consumer.isAsking = true)
    (polling : consumer.PollOf client now broker after happenings) :
    ∃ clientAfter, after.source = .memory clientAfter ∧
      after.Balances settings clientAfter (records ++ fetchedOf happenings) isStopped := by
  obtain ⟨isRunning, holdsNothing⟩ := loop_of_asking asking
  have ended : (consumer.endLoop .ended).Balances settings client records isStopped :=
    balances.endLoop isRunning fun some => absurd holdsNothing some
  cases polling with
  | broken failure | unplaced works nowhere =>
      refine ⟨client, memory, ?_⟩
      rw [show fetchedOf _ = [] from rfl, List.append_nil]
      exact ended
  | @idle position works next nothing =>
      refine ⟨client.placed position, rfl, ?_⟩
      rw [fetchedOf_nil, List.append_nil]
      exact balances.goOn isRunning holdsNothing (PollLoop.isRunning_afterNothing _ _)
        (PollLoop.held?_afterNothing _ _) rfl
  | @fetched offset stored works next found =>
      refine ⟨client.passed offset, rfl, ?_⟩
      rw [fetchedOf_cons_notes]
      exact balances.fetch isRunning holdsNothing

/-! ## One action -/

private theorem Opens.isConsumerStopped {result : Option (Except Fault Unit)}
    (opens : consumer.Opens result after) (system : System) :
    system.isConsumerStopped after = system.isConsumerStopped consumer := by
  cases opens <;> rfl

private theorem Balances.close {system : System}
    (balances : consumer.Balances settings client records (system.isConsumerStopped consumer))
    (closes : consumer.Closes client after clientAfter) :
    after.Balances settings clientAfter records (system.isConsumerStopped after) := by
  obtain ⟨stopped, closing, stops, rfl⟩ := closes.unchanged
  refine balances.same closes.fetched rfl rfl rfl rfl rfl ?_
  simp only [System.isConsumerStopped, Bool.or_eq_true]
  exact Or.imp_left stops

private theorem PollOf.isConsumerStopped {system : System} {now : Nat} {broker : Broker}
    {happenings : List Happening} (polling : consumer.PollOf client now broker after happenings) :
    system.isConsumerStopped after = system.isConsumerStopped consumer := by
  cases polling with
  | broken failure => rfl
  | unplaced works nowhere => rfl
  | idle works next nothing => rfl
  | fetched works next found => rfl

private theorem Balances.loopStep {system : System} {happenings : List Happening}
    (balances : consumer.Balances settings client records (system.isConsumerStopped consumer))
    (memory : consumer.source = .memory client)
    (subscribed : consumer.loop.isRunning = true → client.topic = some consumer.topic.name)
    (moved :
      consumer.LoopStep system.now (system.isConsumerStopped consumer) system.broker after
        happenings) :
    ∃ clientAfter, after.source = .memory clientAfter ∧
      after.Balances settings clientAfter (records ++ fetchedOf happenings)
        (system.isConsumerStopped after) := by
  cases moved with
  | ended reason isRunning =>
      rw [fetchedOf_nil, List.append_nil]
      refine ⟨client, memory, balances.endLoop isRunning ?_⟩
      intro _ hasReceiver
      rcases reason with stopped | ⟨message, _, noReceiver⟩
      · exact stopped
      · rw [noReceiver] at hasReceiver
        cases hasReceiver
  | turned turns goesOn =>
      obtain ⟨isRunning, holdsNothing⟩ := turns.comesFrom
      obtain ⟨stillRunning, stillNothing⟩ := turns.leadsTo
      rw [fetchedOf_nil, List.append_nil]
      exact ⟨client, memory,
        balances.goOn isRunning holdsNothing stillRunning stillNothing rfl⟩
  | asked goesOn asking =>
      have isRunning := (loop_of_asking asking).1
      have polling := look_memory system.now system.broker memory (subscribed isRunning)
      rw [polling.isConsumerStopped]
      exact balances.poll memory asking polling
  | put holds hasReceiver hasRoom goesOn =>
      rw [fetchedOf_nil, List.append_nil]
      exact ⟨client, memory, balances.put holds hasRoom⟩

/-- Whatever is done to a consumer, its records stay accounted for. -/
theorem Changes.balances {system : System} {n : Nat} {action : Action} {reply : Reply}
    {happenings : List Happening} {brokerAfter : Broker}
    (changed : consumer.Changes system n action reply happenings after brokerAfter)
    (memory : consumer.source = .memory client)
    (subscribed : consumer.loop.isRunning = true → client.topic = some consumer.topic.name)
    (balances : consumer.Balances settings client records (system.isConsumerStopped consumer)) :
    ∃ clientAfter, after.source = .memory clientAfter ∧
      after.Balances settings clientAfter (records ++ fetchedOf happenings)
        (system.isConsumerStopped after) := by
  have silently {other : Consumer} {otherClient : Client} {stops : Bool}
      (kept : other.Balances settings otherClient records stops) :
      other.Balances settings otherClient (records ++ fetchedOf []) stops := by
    rw [fetchedOf_nil, List.append_nil]
    exact kept
  cases changed with
  | looped moved =>
      exact balances.loopStep memory subscribed (loopStep?_step moved)
  | revised scripted =>
      rw [memory] at scripted
      cases scripted
  | callsTaken scripted =>
      rw [memory] at scripted
      cases scripted
  -- Nothing else fetches.
  | opened opens =>
      obtain ⟨clientAfter, source, kept⟩ := balances.opens memory opens
      rw [opens.isConsumerStopped]
      exact ⟨clientAfter, source, silently kept⟩
  | received canReceive taken =>
      have kept := balances.receive taken
      obtain ⟨⟨head, inbox⟩, _, same⟩ := Option.map_eq_some_iff.mp taken
      cases same
      exact ⟨client, memory, silently kept⟩
  | inboxClosed canReceive =>
      exact ⟨client, memory, silently (balances.shut List.prefix_rfl true)⟩
  | inboxDropped => exact ⟨client, memory, silently (balances.shut List.nil_prefix false)⟩
  | closeBegun isHeld first =>
      obtain ⟨clientAfter, closes⟩ := closes_beginClose memory system.now
      exact ⟨clientAfter, closes.memory, silently (balances.close closes)⟩
  | dropped =>
      refine ⟨client, memory, silently (balances.same rfl rfl rfl rfl rfl rfl fun _ => ?_)⟩
      simp [System.isConsumerStopped, drop]
  | committed done =>
      obtain rfl := commit_memory memory done
      exact ⟨client, memory, silently balances⟩
  | acked done =>
      obtain ⟨receipts, rfl, unchanged⟩ := ack?_memory memory done
      exact ⟨client, memory, silently (balances.same rfl rfl rfl unchanged rfl rfl id)⟩
  | closeStepped moved =>
      obtain ⟨clientAfter, closes⟩ := closes_closeStep? memory moved
      exact ⟨clientAfter, closes.memory, silently (balances.close closes)⟩

/-- Nothing is left over but one message that may be lost, so what was fetched is bounded. -/
theorem Balances.accounted (balances : consumer.Balances settings client records isStopped)
    (hasReceiver : consumer.inbox.hasReceiver = true) :
    (∃ lost, client.fetched =
        consumer.received.length + consumer.inbox.queue.length +
          records.countP (!consumer.topic.decodes ·) + consumer.loop.held?.toList.length + lost ∧
      consumer.loop.held?.toList.length ≤ 1 ∧ lost ≤ 1 ∧
      consumer.loop.held?.toList.length + lost ≤ 1 ∧ (lost ≠ 0 → isStopped = true)) ∧
    records.countP consumer.topic.decodes ≤
      consumer.received.length + max settings.bufferSize 1 + 1 := by
  obtain ⟨lost, whole, few, isOver⟩ := balances.balanced hasReceiver
  have counted := balances.counted
  have bounded := balances.bounded
  rw [balances.capacity] at bounded
  have parts : records.length = records.countP consumer.topic.decodes +
      records.countP (!consumer.topic.decodes ·) := by
    have divided := List.length_eq_countP_add_countP consumer.topic.decodes (l := records)
    simpa using divided
  have one : consumer.loop.held?.toList.length ≤ 1 := by
    cases consumer.loop.held? with
    | none => exact Nat.zero_le _
    | some message => exact Nat.le_refl _
  have either : consumer.loop.held?.toList.length + lost ≤ 1 := by
    by_cases none : lost = 0
    · rw [none]
      exact one
    · -- A loop that is over holds nothing.
      have holdsNothing : consumer.loop.held? = Option.none := by
        have hasEnded := (isOver none).1
        cases loop : consumer.loop with
        | holding message =>
            rw [loop] at hasEnded
            cases hasEnded
        | unstarted | missing | polling | looking notices | waiting deadline notices | lookingAgain
        | ended | crashed => rfl
      rw [holdsNothing]
      simpa using few
  refine ⟨⟨lost, by omega, one, few, either, fun some => (isOver some).2⟩, by omega⟩

end Consumer

namespace System

/-! ## Runs -/

/-- What was told to stop is not told otherwise by what is done to others. -/
theorem Effect.isConsumerStopped {system after : System} {action : Action} {reply : Reply}
    {events : List Event} (effect : system.Effect action reply after events) {consumer : Consumer}
    (stopped : system.isConsumerStopped consumer = true) :
    after.isConsumerStopped consumer = true := by
  cases effect with
  | scopeCancelled scope =>
      simp only [System.isConsumerStopped, Bool.or_eq_true, List.contains_iff_mem] at stopped ⊢
      exact stopped.imp_right fun member => List.mem_append_left _ member
  | idle unsent unmoved => exact stopped
  | publisher found changed => exact stopped
  | consumer found changed => exact stopped
  | client found changed => exact stopped
  | registered kind name replied => exact stopped
  | publisherAdded making => exact stopped
  | consumerAdded making => exact stopped
  | clientAdded settings => exact stopped
  | appended topic key payload => exact stopped
  | enqueued outbound => exact stopped
  | pollsFailed reason => exact stopped
  | notified owes => exact stopped
  | passed milliseconds => exact stopped

private theorem balances_kept (n : Nat) (settings : Settings.Consumer) (topic : Topic) :
    KeptByFetching n settings topic fun system consumer client _ records =>
      consumer.Balances settings client records (system.isConsumerStopped consumer) where
  changed {system action reply happenings consumer after client polled records} there follows
      changed balances := by
    have subscribed (isRunning : consumer.loop.isRunning = true) :
        client.topic = some consumer.topic.name := by
      rw [follows.sameTopic]
      exact follows.subscribed isRunning
    obtain ⟨clientAfter, memory, kept⟩ := changed.balances follows.memory subscribed balances
    refine ⟨clientAfter, memory, kept.same rfl rfl rfl rfl rfl rfl ?_⟩
    exact (system.act_effect action).isConsumerStopped
  left {system} action _ _ _ _ _ balances :=
    balances.same rfl rfl rfl rfl rfl rfl (system.act_effect action).isConsumerStopped

/-- Of the records that a consumer has fetched since it was made, in any run, every one is
accounted for as long as the application has the inbox. Those with a message were received, wait
in the inbox or are held by the loop, but for at most one that is lost when the consumer is told
to stop; the inbox has as many places as the settings say, and at least one. So no more than
these places and one more are ever fetched beyond what was received. -/
theorem fetched_accounted (system : System) (later : List Action) (kind : Payload.Kind)
    (options : Mapping) (scope : String) (settings : Settings.Consumer) (topic : Topic)
    (resolved : Settings.Consumer.resolve options = .ok settings)
    (bound : system.registry.topic kind = .ok topic) :
    let n := system.consumers.length
    let made := system.next (.addConsumer kind (.memory options) scope)
    let final := made.after later
    let places := max settings.bufferSize 1
    let records := fetchedOf (happeningsOf (.consumer n) (made.events later))
    ∃ consumer client, final.consumers[n]? = some consumer ∧ consumer.topic = topic ∧
      consumer.source = .memory client ∧ client.fetched = records.length ∧
      consumer.inbox.queue.length ≤ places ∧
      (consumer.inbox.hasReceiver = true →
        let skipped := records.countP fun record => !topic.decodes record
        let held := consumer.loop.held?.toList.length
        (∃ lost, client.fetched =
            consumer.received.length + consumer.inbox.queue.length + skipped + held + lost ∧
          held ≤ 1 ∧ lost ≤ 1 ∧ held + lost ≤ 1 ∧
          (lost ≠ 0 → final.isConsumerStopped consumer = true)) ∧
        records.countP topic.decodes ≤ consumer.received.length + places + 1) := by
  intro n made final places records
  have begun : HasFetched (fun system consumer client _ records =>
      consumer.Balances settings client records (system.isConsumerStopped consumer)) made n settings
      topic none [] :=
    ⟨_, _, addConsumer_memory resolved bound, Consumer.follows_create _ scope,
      Consumer.balances_create topic scope⟩
  obtain ⟨consumer, client, there, follows, balances⟩ :=
    begun.after (balances_kept n settings topic) later
  obtain rfl := follows.sameTopic
  rw [List.nil_append] at balances
  have bounded : consumer.inbox.queue.length ≤ places := by
    have within := balances.bounded
    rw [balances.capacity] at within
    exact within
  exact ⟨consumer, client, there, rfl, follows.memory, balances.counted, bounded,
    balances.accounted⟩

/-- Nobody receives, so of five records the consumer fetches the first, which is broken, and two
more. When it is let go, the message that its loop holds is lost. -/
def droppedWhileHolding : List Action :=
  [.openConsumer 0, .append "beat" none (Scan.letters "nil")] ++
    List.replicate 4 (.append "beat" none (Scan.letters "null")) ++
    List.replicate 9 (.step (.pollLoop 0)) ++ [.dropConsumer 0, .step (.pollLoop 0)]

theorem fetched_accounted_of_dropped_while_holding :
    let made := (ofRegistry ⟨[(.unit, "beat")], [("beat", .unit)]⟩).next
      (.addConsumer .unit (.memory []) "scope")
    let final := made.after droppedWhileHolding
    ∃ consumer client lost, final.consumers[0]? = some consumer ∧
      consumer.source = .memory client ∧ consumer.inbox.hasReceiver = true ∧ client.fetched = 3 ∧
      consumer.received.length = 0 ∧ consumer.inbox.queue.length = 1 ∧ lost = 1 ∧
      final.isConsumerStopped consumer = true := by
  intro made final
  let records := fetchedOf (happeningsOf (.consumer 0) (made.events droppedWhileHolding))
  have evaluated : final.consumers[0]?.map (fun consumer =>
      (consumer.inbox.hasReceiver, consumer.received.length, consumer.inbox.queue.length,
        consumer.loop.held?)) = some (true, 0, 1, none) := by
    decide +kernel
  have three : records.length = 3 := by decide +kernel
  have broken : records.countP (fun record => !Topic.decodes ⟨.unit, "beat"⟩ record) = 1 := by
    decide +kernel
  obtain ⟨consumer, client, there, _, memory, counted, _, accounted⟩ :=
    fetched_accounted (ofRegistry ⟨[(.unit, "beat")], [("beat", .unit)]⟩) droppedWhileHolding
      .unit [] "scope" .default ⟨.unit, "beat"⟩ rfl rfl
  rw [show final.consumers[0]? = some consumer from there] at evaluated
  simp only [Option.map_some, Option.some.injEq, Prod.mk.injEq] at evaluated
  obtain ⟨hasReceiver, unreceived, queued, holdsNothing⟩ := evaluated
  obtain ⟨⟨lost, whole, _, _, _, isStopped⟩, _⟩ := accounted hasReceiver
  rw [holdsNothing] at whole
  have fetched : client.fetched = 3 := counted.trans three
  have one : lost = 1 := by
    change client.fetched = consumer.received.length + consumer.inbox.queue.length +
      records.countP (fun record => !Topic.decodes ⟨.unit, "beat"⟩ record) + 0 + lost at whole
    omega
  exact ⟨consumer, client, lost, there, memory, hasReceiver, fetched, unreceived, queued, one,
    isStopped (by omega)⟩

end System

end TopicBus
