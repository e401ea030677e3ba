import TopicBus.Proofs.Delivery.Fetching

/-!
# Where a consumer begins

The first poll that the broker answers settles the start of a consumer, and the first record
that it fetches is the one at its start. If that record is not there yet, the consumer stands at
its offset and fetches nothing until it is; no commit and no policy makes it begin anywhere
else.
-/

namespace TopicBus.Consumer

variable {settings : Settings.Consumer} {topic : Topic} {consumer after : Consumer}
  {client clientAfter : Client} {broker brokerAfter : Broker} {polled : Option Broker}
  {happenings : List Happening} {records : List Record} {start : Nat}

/-! ## Polls and other changes -/

private theorem PollOf.of_failure {now : Nat} {reason : String}
    (polling : consumer.PollOf client now broker after happenings)
    (failure : broker.failure? = some reason) :
    fetchedOf happenings = [] ∧ after.source = consumer.source := by
  cases polling with
  | broken _ => exact ⟨rfl, rfl⟩
  | unplaced works nowhere =>
      rw [works] at failure
      cases failure
  | idle works next nothing =>
      rw [works] at failure
      cases failure
  | fetched works next found =>
      rw [works] at failure
      cases failure

/-- A step of the loop is a poll of a broker that answers, or nothing is fetched and the client
stands where it stood. -/
private theorem LoopStep.poll_cases {system : System}
    (stepped : consumer.LoopStep system.now (system.isConsumerStopped consumer) system.broker after
      happenings)
    (follows : consumer.Follows settings topic client system.broker polled) :
    (system.isPolling consumer = true ∧ system.broker.failure? = none ∧
        consumer.loop.isRunning = true ∧
        consumer.PollOf client system.now system.broker after happenings) ∨
      (system.isPolling consumer = false ∧ fetchedOf happenings = [] ∧
        after.source = .memory client) := by
  cases stepped with
  | ended reason isRunning =>
      refine .inr ⟨?_, rfl, follows.memory⟩
      rcases reason with stopped | ⟨message, holding, _⟩
      · simp [System.isPolling, stopped]
      · simp [System.isPolling, isAsking, holding]
  | turned turns goesOn =>
      exact .inr ⟨by simp [System.isPolling, turns.not_isAsking], rfl, follows.memory⟩
  | asked goesOn asking =>
      have polling : consumer.PollOf client system.now system.broker _ _ := follows.pollOf asking
      cases failure : system.broker.failure? with
      | none =>
          exact .inl ⟨by simp [System.isPolling, asking, goesOn, failure], rfl,
            (loop_of_asking asking).1, polling⟩
      | some reason =>
          obtain ⟨silent, same⟩ := polling.of_failure failure
          exact .inr ⟨by simp [System.isPolling, failure], silent, same.trans follows.memory⟩
  | put holds hasReceiver hasRoom goesOn =>
      exact .inr ⟨by simp [System.isPolling, isAsking, holds], rfl, follows.memory⟩

/-- A change of a consumer is a poll of a broker that answers, or nothing is fetched and the
client of a consumer that is open stands where it stood. -/
theorem Changes.poll_cases {system : System} {n : Nat} {action : Action} {reply : Reply}
    (changed : consumer.Changes system n action reply happenings after brokerAfter)
    (there : system.consumers[n]? = some consumer)
    (follows : consumer.Follows settings topic client system.broker polled) :
    (system.polled? n action = some system.broker ∧ brokerAfter = system.broker ∧
        system.broker.failure? = none ∧ consumer.loop.isRunning = true ∧
        consumer.PollOf client system.now system.broker after happenings) ∨
      (system.polled? n action = none ∧ fetchedOf happenings = [] ∧
        (consumer.isOpened = true → ∃ clientAfter, after.source = .memory clientAfter ∧
          clientAfter.position = client.position)) := by
  cases changed with
  | looped moved =>
      have turn : system.polled? n (.step (.pollLoop n)) =
          if system.isPolling consumer then some system.broker else none := by
        simp [System.polled?, there]
      rcases (loopStep?_step moved).poll_cases follows with
        ⟨polls, works, isRunning, polling⟩ | ⟨silent, nothing, memory⟩
      · rw [turn, polls]
        exact .inl ⟨rfl, rfl, works, isRunning, polling⟩
      · rw [turn, silent]
        exact .inr ⟨rfl, nothing, fun _ => ⟨client, memory, rfl⟩⟩
  | opened opens =>
      refine .inr ⟨rfl, rfl, fun opened => ⟨client, ?_, rfl⟩⟩
      rw [opens.eq_of_isOpened opened]
      exact follows.memory
  | received canReceive taken =>
      obtain ⟨_, _, same⟩ := Option.map_eq_some_iff.mp taken
      cases same
      exact .inr ⟨rfl, rfl, fun _ => ⟨client, follows.memory, rfl⟩⟩
  | inboxClosed canReceive | inboxDropped =>
      exact .inr ⟨rfl, rfl, fun _ => ⟨client, follows.memory, rfl⟩⟩
  | closeBegun isHeld first =>
      obtain ⟨clientAfter, closes⟩ := closes_beginClose follows.memory system.now
      exact .inr ⟨rfl, rfl, fun _ => ⟨clientAfter, closes.memory, closes.position⟩⟩
  | dropped => exact .inr ⟨rfl, rfl, fun _ => ⟨client, follows.memory, rfl⟩⟩
  | committed done =>
      obtain rfl := commit_memory follows.memory done
      exact .inr ⟨rfl, rfl, fun _ => ⟨client, follows.memory, rfl⟩⟩
  | acked done =>
      obtain ⟨receipts, rfl, _⟩ := ack?_memory follows.memory done
      exact .inr ⟨rfl, rfl, fun _ => ⟨client, follows.memory, rfl⟩⟩
  | revised scripted =>
      rw [follows.memory] at scripted
      cases scripted
  | callsTaken scripted =>
      rw [follows.memory] at scripted
      cases scripted
  | closeStepped moved =>
      obtain ⟨clientAfter, closes⟩ := closes_closeStep? follows.memory moved
      exact .inr ⟨rfl, rfl, fun _ => ⟨clientAfter, closes.memory, closes.position⟩⟩

/-- A poll of a client that is to read at an offset fetches the record there, or there is none
and the client stays. -/
theorem PollOf.fetched_or_waits {now : Nat}
    (polling : consumer.PollOf client now broker after happenings)
    (works : broker.failure? = none)
    (next : client.nextPosition broker consumer.topic.name = .ok start) :
    (∃ stored, (broker.log consumer.topic.name)[start]? = some stored ∧
        fetchedOf happenings = [stored.toRecord ⟨consumer.topic.name, 0, start⟩]) ∨
      (fetchedOf happenings = [] ∧ broker.size consumer.topic.name ≤ start ∧
        ∃ clientAfter, after.source = .memory clientAfter ∧
          clientAfter.position = some (start : Int)) := by
  cases polling with
  | broken failure =>
      rw [works] at failure
      cases failure
  | unplaced _ nowhere =>
      rw [next] at nowhere
      cases nowhere
  | @idle position _ there nothing =>
      rw [next] at there
      cases there
      have beyond : broker.size consumer.topic.name ≤ start := by
        by_contra inside
        have found := List.getElem?_eq_getElem (Nat.lt_of_not_le inside)
        rw [Client.recordAt?_eq_some_iff.mpr ⟨start, _, rfl, found, rfl⟩] at nothing
        cases nothing
      exact .inr ⟨rfl, beyond, client.placed start, rfl, rfl⟩
  | @fetched offset stored _ there found =>
      rw [next] at there
      cases there
      exact .inl ⟨stored, found, fetchedOf_cons_notes _ _⟩

/-! ## The beginning -/

/-- What a consumer with a start has fetched: nothing, and then it stands at its start, where
there was no record at its first poll; or the record at its start and others after it. -/
inductive Begins (consumer : Consumer) (client : Client) (broker first : Broker) (start : Nat) :
    List Record → Prop
  | waiting (placed : client.position = some (start : Int))
      (beyond : first.size consumer.topic.name ≤ start) :
      Begins consumer client broker first start []
  | begun {stored : Stored} {rest : List Record}
      (found : (broker.log consumer.topic.name)[start]? = some stored) :
      Begins consumer client broker first start
        (stored.toRecord ⟨consumer.topic.name, 0, start⟩ :: rest)

theorem Begins.waiting_or_begun {first : Broker}
    (begins : consumer.Begins client broker first start records) :
    (records = [] ∧ client.position = some (start : Int) ∧
        first.size consumer.topic.name ≤ start) ∨
      ∃ stored rest, (broker.log consumer.topic.name)[start]? = some stored ∧
        records = stored.toRecord ⟨consumer.topic.name, 0, start⟩ :: rest := by
  cases begins with
  | waiting placed beyond => exact .inl ⟨rfl, placed, beyond⟩
  | begun found => exact .inr ⟨_, _, found, rfl⟩

/-- Before its first poll a consumer has fetched nothing, and after that it begins at its start. -/
def BeginsAtStart (settings : Settings.Consumer) (consumer : Consumer) (client : Client)
    (broker : Broker) (polled : Option Broker) (records : List Record) : Prop :=
  match polled with
  | none => records = []
  | some first =>
      ∀ start : Nat, first.start? settings consumer.topic.name = some (start : Int) →
        consumer.Begins client broker first start records

private theorem Begins.grow {first : Broker}
    (begins : consumer.Begins client broker first start records)
    (topic : after.topic = consumer.topic)
    (grown : broker.log consumer.topic.name <+: brokerAfter.log consumer.topic.name)
    (position : records = [] → clientAfter.position = client.position) :
    after.Begins clientAfter brokerAfter first start records := by
  cases begins with
  | waiting placed beyond =>
      rw [← topic] at beyond
      exact .waiting ((position rfl).trans placed) beyond
  | begun found =>
      have kept := Broker.found_of_grown grown found
      rw [← topic] at kept ⊢
      exact .begun kept

/-- A poll of a client that is to read at the start fetches the record there, or the client
waits for it. -/
private theorem PollOf.begins {now : Nat} {first : Broker}
    (polling : consumer.PollOf client now broker after happenings)
    (works : broker.failure? = none) (topic : after.topic = consumer.topic)
    (next : client.nextPosition broker consumer.topic.name = .ok start)
    (beyond : broker.size consumer.topic.name ≤ start → first.size consumer.topic.name ≤ start)
    (memory : after.source = .memory clientAfter) :
    after.Begins clientAfter broker first start (fetchedOf happenings) := by
  rw [← topic] at beyond
  rcases polling.fetched_or_waits works next with ⟨stored, found, fetched⟩ |
    ⟨silent, nothing, other, otherMemory, placed⟩
  · rw [fetched]
    rw [← topic] at found ⊢
    exact .begun found
  · rw [silent]
    rw [memory] at otherMemory
    cases otherMemory
    rw [← topic] at nothing
    exact .waiting placed (beyond nothing)

/-- Whatever is done to a consumer, it begins at its start. -/
theorem Changes.beginsAtStart {system : System} {n : Nat} {action : Action} {reply : Reply}
    (changed : consumer.Changes system n action reply happenings after brokerAfter)
    (there : system.consumers[n]? = some consumer)
    (follows : consumer.Follows settings topic client system.broker polled)
    (begins : consumer.BeginsAtStart settings client system.broker polled records) :
    ∃ clientAfter, after.source = .memory clientAfter ∧
      after.BeginsAtStart settings clientAfter brokerAfter (polled.or (system.polled? n action))
        (records ++ fetchedOf happenings) := by
  obtain ⟨clientAfter, followsAfter⟩ := changed.follows there follows
  have sameTopic := changed.isAkin.1
  have grown := changed.stores.log_grows consumer.topic.name
  have memory := followsAfter.memory
  refine ⟨clientAfter, memory, ?_⟩
  rcases changed.poll_cases there follows with ⟨turn, rfl, works, isRunning, polling⟩ |
    ⟨turn, silent, still⟩
  · rw [turn]
    cases polled with
    | none =>
        -- This is the first poll, and it settles the start.
        obtain rfl : records = [] := begins
        intro start starts
        rw [sameTopic] at starts
        have next : client.nextPosition system.broker consumer.topic.name = .ok (start : Int) := by
          rw [follows.sameTopic] at starts ⊢
          exact follows.nextPosition_of_unasked starts
        exact polling.begins works sameTopic next id memory
    | some first =>
        intro start starts
        rw [sameTopic] at starts
        cases begins start starts with
        | waiting placed beyond =>
            have next :
                client.nextPosition system.broker consumer.topic.name = .ok (start : Int) := by
              simp [Client.nextPosition, placed]
            exact polling.begins works sameTopic next (fun _ => beyond) memory
        | begun found =>
            rw [← sameTopic] at found ⊢
            exact .begun found
  · rw [turn, Option.or_none, silent, List.append_nil]
    cases polled with
    | none => exact begins
    | some first =>
        intro start starts
        rw [sameTopic] at starts
        refine (begins start starts).grow sameTopic grown fun _ => ?_
        have opened : consumer.isOpened = true := by
          by_contra unopened
          have unasked := (follows.of_unstarted (unstarted_of_not_isOpened unopened)).1
          cases unasked
        obtain ⟨other, otherMemory, same⟩ := still opened
        rw [memory] at otherMemory
        cases otherMemory
        exact same

end TopicBus.Consumer

namespace TopicBus.System

open Consumer (BeginsAtStart)

variable {system : System} {n : Nat} {consumer : Consumer} {client : Client}

private theorem beginsAtStart_kept (n : Nat) (settings : Settings.Consumer) (topic : Topic) :
    KeptByFetching n settings topic fun system consumer client polled records =>
      consumer.BeginsAtStart settings client system.broker polled records where
  changed there follows changed begins := changed.beginsAtStart there follows begins
  left {system} action {consumer client polled records} _ begins := by
    have grown := (system.next_broker action).log_grows consumer.topic.name
    cases polled with
    | none => exact begins
    | some first =>
        intro start starts
        exact (begins start starts).grow rfl grown fun _ => rfl

/-- A consumer that is made in a run begins at its start. -/
theorem beginsAtStart_of_absent {actions : List Action} (absent : system.consumers[n]? = none)
    (there : (system.after actions).consumers[n]? = some consumer)
    (memory : consumer.source = .memory client) :
    ∃ settings,
      consumer.Follows settings consumer.topic client (system.after actions).broker
        (system.firstPolled? n actions) ∧
      consumer.BeginsAtStart settings client (system.after actions).broker
        (system.firstPolled? n actions)
        (fetchedOf (happeningsOf (.consumer n) (system.events actions))) := by
  obtain ⟨settings, found, foundClient, thereToo, follows, begins⟩ :=
    hasFetched_of_absent (fun settings topic => beginsAtStart_kept n settings topic)
      (fun _ _ _ _ => rfl) absent there memory
  rw [there] at thereToo
  cases thereToo
  have sameClient := follows.memory
  rw [memory] at sameClient
  cases sameClient
  exact ⟨settings, follows, begins⟩

/-- A consumer that waits at its start fetches the record there with its next poll, once it is
there. -/
theorem fetched_of_waiting {settings : Settings.Consumer} {topic : Topic} {polled : Option Broker}
    {start : Nat} {stored : Stored} (there : system.consumers[n]? = some consumer)
    (follows : consumer.Follows settings topic client system.broker polled)
    (placed : client.position = some (start : Int)) (polling : system.isPolling consumer = true)
    (found : (system.broker.log consumer.topic.name)[start]? = some stored) :
    fetchedOf (happeningsOf (.consumer n) (system.act (.step (.pollLoop n))).2.2) =
      [stored.toRecord ⟨consumer.topic.name, 0, start⟩] := by
  have turn : system.polled? n (.step (.pollLoop n)) = some system.broker := by
    simp [polled?, there, polling]
  rcases (system.act_effect (.step (.pollLoop n))).consumer_frame there with
    ⟨moved, _, changed⟩ | ⟨_, _, stuck⟩
  · rcases changed.poll_cases there follows with ⟨_, _, works, _, asked⟩ | ⟨idle, _, _⟩
    · have next : client.nextPosition system.broker consumer.topic.name = .ok (start : Int) := by
        simp [Client.nextPosition, placed]
      rcases asked.fetched_or_waits works next with ⟨same, foundToo, fetched⟩ | ⟨_, beyond, _⟩
      · rw [found] at foundToo
        cases foundToo
        exact fetched
      · have inside := (List.getElem?_eq_some_iff.mp found).1
        exact absurd inside (Nat.not_lt.mpr beyond)
    · rw [turn] at idle
      cases idle
  · rw [polled?_of_stuck there stuck] at turn
    cases turn

end TopicBus.System
