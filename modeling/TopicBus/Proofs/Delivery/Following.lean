import TopicBus.Proofs.Bus.Identity
import TopicBus.Proofs.Bus.Records
import TopicBus.Proofs.Delivery.Reading

/-!
# Following a topic

Where a consumer starts is settled by the first poll that the broker answers, and by nothing
else. The invariant `Follows` says how a consumer of the broker inside the process stands to its
topic after any run, given the broker as it was at that poll. Each change of the consumer keeps
it, and so does everything that is done to others.
-/

namespace TopicBus

/-! ## The first poll -/

/-- Whether the next step of the loop of a consumer looks into a broker that answers. -/
def System.isPolling (system : System) (consumer : Consumer) : Bool :=
  consumer.isAsking && !system.isConsumerStopped consumer &&
    system.broker.failure?.isNone

/-- The broker that a consumer asks with an action, if the action is such a poll. -/
def System.polled? (system : System) (n : Nat) : Action → Option Broker
  | .step (.pollLoop m) =>
      if m = n ∧ system.consumers[n]?.any system.isPolling then some system.broker else none
  | _ => none

/-- The broker as it was at the first poll of a consumer that the broker answered. -/
def System.firstPolled? (system : System) (n : Nat) : List Action → Option Broker
  | [] => none
  | action :: rest => (system.polled? n action).or ((system.next action).firstPolled? n rest)

@[simp]
theorem System.firstPolled?_append (system : System) (n : Nat) (first second : List Action) :
    system.firstPolled? n (first ++ second) =
      (system.firstPolled? n first).or ((system.after first).firstPolled? n second) := by
  induction first generalizing system with
  | nil => rfl
  | cons action rest inductionHypothesis =>
      simp only [List.cons_append, firstPolled?, inductionHypothesis, after_cons, Option.or_assoc]

namespace Consumer

/-! ## The invariant -/

/-- How far a consumer has come, given the broker as it was at the first poll. -/
inductive Progress (settings : Settings.Consumer) (consumer : Consumer) (client : Client)
    (broker : Broker) : Option Broker → Prop
  | unasked (untouched : consumer.IsUntouched client) :
      Progress settings consumer client broker none
  /-- There was no place to start from. -/
  | refused {polled : Broker} (nowhere : polled.start? settings consumer.topic.name = none)
      (untouched : consumer.IsUntouched client) (isEnded : consumer.loop = .ended) :
      Progress settings consumer client broker (some polled)
  | started {polled : Broker} {start position : Int}
      (starts : polled.start? settings consumer.topic.name = some start)
      (reads : consumer.Reads client broker start position) :
      Progress settings consumer client broker (some polled)

/-- A consumer that was made with the settings follows a topic through a client of the broker. -/
structure Follows (settings : Settings.Consumer) (topic : Topic) (consumer : Consumer)
    (client : Client) (broker : Broker) (polled : Option Broker) : Prop where
  sameTopic : consumer.topic = topic
  memory : consumer.source = .memory client
  group : client.group = settings.group
  policy : client.policy = settings.startPolicy.getD .earliest
  unsubscribed : consumer.loop = .unstarted → client.topic = none
  subscribed : consumer.loop.isRunning = true → client.topic = some topic.name
  hasEnded : consumer.loop = .ended → consumer.inbox.hasSender = false
  /-- The inbox has a place that nobody holds. -/
  hasPlaces : consumer.inbox.reserved < consumer.inbox.capacity
  progress : consumer.Progress settings client broker polled

variable {settings : Settings.Consumer} {topic : Topic} {consumer after : Consumer}
  {client : Client} {broker brokerAfter : Broker} {polled : Option Broker}

/-- What others put behind the end of the log changes nothing. -/
theorem Follows.grow (follows : consumer.Follows settings topic client broker polled)
    (grown : broker.log topic.name <+: brokerAfter.log topic.name) :
    consumer.Follows settings topic client brokerAfter polled := by
  refine ⟨follows.sameTopic, follows.memory, follows.group, follows.policy, follows.unsubscribed,
    follows.subscribed, follows.hasEnded, follows.hasPlaces, ?_⟩
  rw [← follows.sameTopic] at grown
  cases follows.progress with
  | unasked untouched => exact .unasked untouched
  | refused nowhere untouched isEnded => exact .refused nowhere untouched isEnded
  | started starts reads => exact .started starts (reads.grow grown)

theorem follows_create (broker : Broker) (scope : String) :
    (create topic (.memory (.ofSettings settings)) settings scope).Follows settings topic
      (.ofSettings settings) broker none where
  sameTopic := rfl
  memory := rfl
  group := rfl
  policy := rfl
  unsubscribed _ := rfl
  subscribed isRunning := by cases isRunning
  hasEnded isEnded := by cases isEnded
  hasPlaces := Nat.lt_of_lt_of_le Nat.one_pos (Nat.le_max_right _ _)
  progress := .unasked ⟨rfl, rfl, rfl⟩

/-! ## Changes by the application -/

/-- A consumer that is not touched but in its bookkeeping follows its topic as before. -/
private theorem Follows.same (follows : consumer.Follows settings topic client broker polled)
    (sameTopic : after.topic = consumer.topic) (memory : after.source = consumer.source)
    (received : after.received = consumer.received) (inbox : after.inbox = consumer.inbox)
    (loop : after.loop = consumer.loop) :
    after.Follows settings topic client broker polled := by
  refine ⟨sameTopic.trans follows.sameTopic, memory.trans follows.memory, follows.group,
    follows.policy, ?_, ?_, ?_, ?_, ?_⟩
  · rw [loop]
    exact follows.unsubscribed
  · rw [loop]
    exact follows.subscribed
  · rw [loop, inbox]
    exact follows.hasEnded
  · rw [inbox]
    exact follows.hasPlaces
  · have untouched_same (untouched : consumer.IsUntouched client) : after.IsUntouched client := by
      refine ⟨untouched.unplaced, ?_, ?_⟩
      · rw [received, inbox]
        exact untouched.nothing
      · rw [loop]
        exact untouched.holdsNothing
    cases follows.progress with
    | unasked untouched => exact .unasked (untouched_same untouched)
    | refused nowhere untouched isEnded =>
        rw [← sameTopic] at nowhere
        exact .refused nowhere (untouched_same untouched) (loop.trans isEnded)
    | started starts reads =>
        rw [← sameTopic] at starts
        refine .started starts ⟨?_, reads.placed, ?_, ?_, ?_⟩
        · rw [loop]
          exact reads.isOpened
        · rw [sameTopic]
          exact reads.inside
        · rw [sameTopic, received, inbox]
          exact reads.delivered
        · rw [sameTopic, received, inbox, loop]
          exact reads.complete

theorem Follows.of_unstarted
    (follows : consumer.Follows settings topic client broker polled)
    (unstarted : consumer.loop = .unstarted) : polled = none ∧ consumer.IsUntouched client := by
  cases follows.progress with
  | unasked untouched => exact ⟨rfl, untouched⟩
  | refused nowhere untouched isEnded =>
      rw [unstarted] at isEnded
      cases isEnded
  | started starts reads => exact absurd unstarted reads.isOpened

private theorem Follows.finishClose
    (follows : consumer.Follows settings topic client broker polled)
    (isOver : consumer.loop.isRunning = false) :
    consumer.finishClose.Follows settings topic client.close broker polled := by
  have closing : consumer.source.close = (.ok (), .memory client.close) := by
    rw [follows.memory]
    rfl
  unfold Consumer.finishClose
  rw [closing]
  refine ⟨follows.sameTopic, rfl, follows.group, follows.policy, fun _ => rfl, ?_,
    follows.hasEnded, follows.hasPlaces, ?_⟩
  · intro isRunning
    have running : consumer.loop.isRunning = true := isRunning
    rw [isOver] at running
    cases running
  · cases follows.progress with
    | unasked untouched =>
        exact .unasked ⟨untouched.unplaced, untouched.nothing, untouched.holdsNothing⟩
    | refused nowhere untouched isEnded =>
        exact .refused nowhere ⟨untouched.unplaced, untouched.nothing, untouched.holdsNothing⟩
          isEnded
    | started starts reads =>
        exact .started starts
          ⟨reads.isOpened, reads.placed, reads.inside, reads.delivered, reads.complete⟩

/-- A consumer of the broker that was never opened has no subscription yet, and gets one. -/
private theorem Follows.subscribe (follows : consumer.Follows settings topic client broker polled)
    (unstarted : consumer.loop = .unstarted) :
    consumer.source.subscribe consumer.topic.name =
      (.ok (), .memory { client with topic := some topic.name, position := none }) := by
  rw [follows.memory, follows.sameTopic]
  simp [Source.subscribe, Client.subscribe, follows.unsubscribed unstarted]

private theorem Follows.opens {result : Option (Except Fault Unit)}
    (follows : consumer.Follows settings topic client broker polled)
    (opens : consumer.Opens result after) :
    ∃ client, after.Follows settings topic client broker polled := by
  cases opens with
  | again isOpened => exact ⟨client, follows⟩
  | refused unstarted subscribing =>
      rw [follows.subscribe unstarted] at subscribing
      cases subscribing
  | crashed unstarted subscribing tooLarge =>
      obtain ⟨rfl, untouched⟩ := follows.of_unstarted unstarted
      rw [follows.subscribe unstarted] at subscribing
      cases subscribing
      exact ⟨_, follows.sameTopic, rfl, follows.group, follows.policy, by simp,
        fun _ => rfl, by simp,
        follows.hasPlaces, .unasked ⟨rfl, untouched.nothing, rfl⟩⟩
  | started unstarted subscribing fits =>
      obtain ⟨rfl, untouched⟩ := follows.of_unstarted unstarted
      rw [follows.subscribe unstarted] at subscribing
      cases subscribing
      refine ⟨_, follows.sameTopic, rfl, follows.group, follows.policy, by simp,
        fun _ => rfl, by simp,
        Nat.lt_of_lt_of_le Nat.one_pos (Nat.le_max_right _ _), .unasked ⟨rfl, ?_, rfl⟩⟩
      obtain ⟨nothing, _⟩ := List.append_eq_nil_iff.mp untouched.nothing
      have unreceived : consumer.receipts.map Receipt.message = [] := nothing
      simp [received, unreceived, Channel.ofBuffer]

theorem Follows.receive {message : Message}
    (follows : consumer.Follows settings topic client broker polled)
    (taken : consumer.receive? = some (message, after)) :
    after.Follows settings topic client broker polled := by
  have receiving := taken
  obtain ⟨⟨head, inbox⟩, popped, same⟩ := Option.map_eq_some_iff.mp taken
  cases same
  obtain ⟨rest, shape, rfl⟩ := Channel.pop?_eq_some_iff.mp popped
  have touched : ¬consumer.IsUntouched client := by
    intro untouched
    have nothing := untouched.nothing
    rw [shape] at nothing
    simp at nothing
  refine ⟨follows.sameTopic, follows.memory, follows.group, follows.policy, follows.unsubscribed,
    follows.subscribed, follows.hasEnded, follows.hasPlaces, ?_⟩
  cases follows.progress with
  | unasked untouched => exact absurd untouched touched
  | refused nowhere untouched isEnded => exact absurd untouched touched
  | started starts reads => exact .started starts (reads.receive receiving)

private theorem Follows.shut {rest : List Message}
    (follows : consumer.Follows settings topic client broker polled)
    (kept : rest <+: consumer.inbox.queue) (takesRest : Bool) :
    (consumer.shut rest takesRest).Follows settings topic client broker polled := by
  refine ⟨follows.sameTopic, follows.memory, follows.group, follows.policy, follows.unsubscribed,
    follows.subscribed, follows.hasEnded, follows.hasPlaces, ?_⟩
  have untouched_shut (untouched : consumer.IsUntouched client) :
      (consumer.shut rest takesRest).IsUntouched client := by
    refine ⟨untouched.unplaced, ?_, untouched.holdsNothing⟩
    obtain ⟨nothing, empty⟩ := List.append_eq_nil_iff.mp untouched.nothing
    rw [empty] at kept
    exact List.append_eq_nil_iff.mpr ⟨nothing, List.prefix_nil.mp kept⟩
  cases follows.progress with
  | unasked untouched => exact .unasked (untouched_shut untouched)
  | refused nowhere untouched isEnded => exact .refused nowhere (untouched_shut untouched) isEnded
  | started starts reads => exact .started starts (reads.shut kept takesRest)

private theorem Follows.beginClose (now : Nat)
    (follows : consumer.Follows settings topic client broker polled) :
    ∃ client, (consumer.beginClose now).Follows settings topic client broker polled := by
  unfold Consumer.beginClose
  split
  · have stopped : Follows settings topic { consumer with stopped := true } client broker polled :=
      follows.same rfl rfl rfl rfl rfl
    by_cases hasLoop : Consumer.hasLoop { consumer with stopped := true } = true
    · simp only [hasLoop, if_true]
      exact ⟨client, stopped.same rfl rfl rfl rfl rfl⟩
    · simp only [hasLoop, Bool.false_eq_true, if_false]
      refine ⟨client.close, stopped.finishClose ?_⟩
      rcases loop_of_not_hasLoop hasLoop with unstarted | missing
      · exact unstarted ▸ rfl
      · exact missing ▸ rfl
  · exact ⟨client, follows⟩

theorem commit_memory {token : Token} {result : Except Fault Unit}
    (memory : consumer.source = .memory client)
    (done : consumer.commit broker token = (result, after, brokerAfter)) : after = consumer := by
  unfold commit at done
  simp only [memory, Source.commit] at done
  cases done
  rw [← memory]

theorem ack?_memory {receipt : Nat} {result : Except Fault Unit}
    (memory : consumer.source = .memory client)
    (done : consumer.ack? broker receipt = some (result, after, brokerAfter)) :
    ∃ receipts, after = { consumer with receipts := receipts } ∧
      receipts.map Receipt.message = consumer.received := by
  cases ack?_acking done with
  | again found isAcked => exact ⟨consumer.receipts, rfl, rfl⟩
  | unmade found unacked missing => exact ⟨consumer.receipts, rfl, rfl⟩
  | failed found unacked carried committing =>
      obtain rfl := commit_memory memory committing
      exact ⟨after.receipts, rfl, rfl⟩
  | @marked acked token moved brokerAfter found unacked carried committing =>
      obtain rfl := commit_memory memory committing
      refine ⟨_, rfl, ?_⟩
      have place : moved.received[receipt]? = some acked.message := by
        rw [received, List.getElem?_map, found]
        rfl
      obtain ⟨inside, same⟩ := List.getElem?_eq_some_iff.mp place
      have marked : moved.received.set receipt acked.message = moved.received := by
        rw [← same]
        exact List.set_getElem_self inside
      rw [List.map_set]
      exact marked

/-! ## Steps of the loop -/

private theorem Follows.endLoop
    (follows : consumer.Follows settings topic client broker polled)
    (isRunning : consumer.loop.isRunning = true) :
    (consumer.endLoop .ended).Follows settings topic client broker polled := by
  refine ⟨follows.sameTopic, follows.memory, follows.group, follows.policy, ?_, ?_, fun _ => rfl,
    follows.hasPlaces, ?_⟩
  · intro unstarted
    cases unstarted
  · intro running
    cases running
  · cases follows.progress with
    | unasked untouched => exact .unasked ⟨untouched.unplaced, untouched.nothing, rfl⟩
    | refused nowhere untouched isEnded =>
        rw [isEnded] at isRunning
        cases isRunning
    | started starts reads => exact .started starts (reads.endLoop (by simp) rfl)

/-- A loop whose poll goes on without a look follows its topic as before. -/
theorem Follows.goOn {now : Nat} {loop : PollLoop}
    (follows : consumer.Follows settings topic client broker polled)
    (turns : consumer.Turns now broker loop) :
    Follows settings topic { consumer with loop := loop } client broker polled := by
  obtain ⟨isRunning, holdsNothing⟩ := turns.comesFrom
  obtain ⟨goesOn, stillNothing⟩ := turns.leadsTo
  refine ⟨follows.sameTopic, follows.memory, follows.group, follows.policy, ?_, ?_, ?_,
    follows.hasPlaces, ?_⟩
  · intro unstarted
    exact absurd unstarted (PollLoop.ne_unstarted_of_isRunning goesOn)
  · intro _
    exact follows.subscribed isRunning
  · rintro rfl
    cases goesOn
  · cases follows.progress with
    | unasked untouched => exact .unasked ⟨untouched.unplaced, untouched.nothing, stillNothing⟩
    | refused nowhere untouched isEnded =>
        rw [isEnded] at isRunning
        cases isRunning
    | started starts reads =>
        exact .started starts (reads.goOn isRunning holdsNothing goesOn stillNothing)

theorem Follows.put {message : Message}
    (follows : consumer.Follows settings topic client broker polled)
    (holds : consumer.loop = .holding message) (hasReceiver : consumer.inbox.hasReceiver = true) :
    Follows settings topic
      { consumer with loop := .polling, inbox := consumer.inbox.push message } client broker
      polled := by
  have running : consumer.loop.isRunning = true := by simp [holds, PollLoop.isRunning]
  refine ⟨follows.sameTopic, follows.memory, follows.group, follows.policy, ?_, ?_, ?_,
    follows.hasPlaces, ?_⟩
  · intro unstarted
    cases unstarted
  · intro _
    exact follows.subscribed running
  · intro isEnded
    cases isEnded
  · have held (untouched : consumer.IsUntouched client) : False := by
      have nothing := untouched.holdsNothing
      rw [holds] at nothing
      cases nothing
    cases follows.progress with
    | unasked untouched => exact (held untouched).elim
    | refused nowhere untouched isEnded => exact (held untouched).elim
    | started starts reads => exact .started starts (reads.put holds hasReceiver)

/-- A consumer that goes on without a position has not asked yet. -/
theorem Follows.unasked (follows : consumer.Follows settings topic client broker polled)
    (isRunning : consumer.loop.isRunning = true) (unplaced : client.position = none) :
    polled = none := by
  cases follows.progress with
  | unasked untouched => rfl
  | refused nowhere untouched isEnded =>
      rw [isEnded] at isRunning
      cases isRunning
  | started starts reads =>
      have placed := reads.placed
      rw [unplaced] at placed
      cases placed

/-- Before the first poll the client is to read at the start. -/
theorem Follows.nextPosition_of_unasked {start : Int}
    (follows : consumer.Follows settings topic client broker none)
    (starts : broker.start? settings topic.name = some start) :
    client.nextPosition broker topic.name = .ok start := by
  cases follows.progress with
  | unasked untouched =>
      simp [Client.nextPosition, untouched.unplaced,
        Client.startPosition_eq follows.group follows.policy, starts]

/-- A poll that the broker answers has a position: the start, if it is the first one, and else
the one that was reached. -/
theorem Follows.placed {position : Int}
    (follows : consumer.Follows settings topic client broker polled)
    (isRunning : consumer.loop.isRunning = true)
    (next : client.nextPosition broker topic.name = .ok position) :
    ∃ first start, polled.or (some broker) = some first ∧
      first.start? settings topic.name = some start ∧
      consumer.Reads (client.placed position) broker start position := by
  have progress := follows.progress
  rw [← follows.sameTopic] at next ⊢
  cases progress with
  | unasked untouched =>
      unfold Client.nextPosition at next
      simp only [untouched.unplaced,
        Client.startPosition_eq follows.group follows.policy] at next
      cases starts : broker.start? settings consumer.topic.name with
      | none =>
          rw [starts] at next
          cases next
      | some start =>
          rw [starts] at next
          cases next
          exact ⟨broker, position, rfl, starts, untouched.reads isRunning⟩
  | refused nowhere untouched isEnded =>
      rw [isEnded] at isRunning
      cases isRunning
  | @started first start reached starts reads =>
      unfold Client.nextPosition at next
      rw [reads.placed] at next
      cases next
      have same : client.placed position = client := by
        unfold Client.placed
        rw [← reads.placed]
      refine ⟨first, start, rfl, starts, ?_⟩
      rw [same]
      exact reads

/-- A poll finds no place to start from only if it is the first one. -/
private theorem Follows.unplaced {fault : TransportFault}
    (follows : consumer.Follows settings topic client broker polled)
    (isRunning : consumer.loop.isRunning = true)
    (nowhere : client.nextPosition broker topic.name = .error fault) :
    polled = none ∧ consumer.IsUntouched client ∧ broker.start? settings topic.name = none := by
  have progress := follows.progress
  cases progress with
  | unasked untouched =>
      refine ⟨rfl, untouched, ?_⟩
      unfold Client.nextPosition at nowhere
      simp only [untouched.unplaced,
        Client.startPosition_eq follows.group follows.policy] at nowhere
      cases starts : broker.start? settings topic.name with
      | none => rfl
      | some start =>
          rw [starts] at nowhere
          cases nowhere
  | refused nowhere untouched isEnded =>
      rw [isEnded] at isRunning
      cases isRunning
  | started starts reads =>
      unfold Client.nextPosition at nowhere
      rw [reads.placed] at nowhere
      cases nowhere

theorem Follows.poll {now : Nat} {happenings : List Happening}
    (follows : consumer.Follows settings topic client broker polled)
    (asking : consumer.isAsking = true)
    (polling : consumer.PollOf client now broker after happenings) :
    ∃ client, after.Follows settings topic client broker
      (polled.or (if broker.failure?.isNone then some broker else none)) := by
  obtain ⟨isRunning, holdsNothing⟩ := loop_of_asking asking
  obtain rfl := follows.sameTopic
  cases polling with
  | broken failure =>
      simp only [failure, Option.isNone_some, Bool.false_eq_true, if_false, Option.or_none]
      exact ⟨client, follows.endLoop isRunning⟩
  | unplaced works nowhere =>
      obtain ⟨rfl, untouched, unstarted⟩ := follows.unplaced isRunning nowhere
      simp only [works, Option.isNone_none, if_true, Option.none_or]
      refine ⟨client, rfl, follows.memory, follows.group, follows.policy, ?_, ?_, fun _ => rfl,
        follows.hasPlaces, .refused unstarted ⟨untouched.unplaced, untouched.nothing, rfl⟩ rfl⟩
      · intro unstarted
        cases unstarted
      · intro running
        cases running
  | @idle position works next nothing =>
      obtain ⟨first, start, settled, starts, reads⟩ := follows.placed isRunning next
      simp only [works, Option.isNone_none, if_true, settled]
      refine ⟨client.placed position, rfl, rfl, follows.group, follows.policy, ?_, ?_, ?_,
        follows.hasPlaces, .started starts (reads.goOn isRunning holdsNothing
          (PollLoop.isRunning_afterNothing _ _) (PollLoop.held?_afterNothing _ _))⟩
      · intro unstarted
        exact absurd unstarted
          (PollLoop.ne_unstarted_of_isRunning (PollLoop.isRunning_afterNothing _ _))
      · intro _
        exact follows.subscribed isRunning
      · intro isEnded
        have running := PollLoop.isRunning_afterNothing consumer.loop (now + consumer.pollTimeout)
        rw [show PollLoop.afterNothing _ _ = PollLoop.ended from isEnded] at running
        cases running
  | @fetched offset stored works next found =>
      obtain ⟨first, start, settled, starts, reads⟩ := follows.placed isRunning next
      simp only [works, Option.isNone_none, if_true, settled]
      refine ⟨client.passed offset, rfl, rfl, follows.group, follows.policy, ?_, ?_, ?_,
        follows.hasPlaces, .started starts (reads.fetched isRunning holdsNothing found)⟩
      · intro unstarted
        exact absurd unstarted
          (PollLoop.ne_unstarted_of_isRunning (PollLoop.isRunning_afterRecord _))
      · intro _
        exact follows.subscribed isRunning
      · intro isEnded
        have running : PollLoop.isRunning _ = true := PollLoop.isRunning_afterRecord
          (consumer.topic.message? offset stored)
        rw [show PollLoop.afterRecord _ = PollLoop.ended from isEnded] at running
        cases running

/-- Whoever follows a topic is subscribed when it polls. -/
theorem Follows.pollOf {now : Nat} (follows : consumer.Follows settings topic client broker polled)
    (asking : consumer.isAsking = true) :
    consumer.PollOf client now broker (consumer.look now broker).1
      (consumer.look now broker).2 := by
  have subscribed : client.topic = some consumer.topic.name := by
    rw [follows.sameTopic]
    exact follows.subscribed (loop_of_asking asking).1
  exact look_memory now broker follows.memory subscribed

/-- A step of the loop follows the topic. The broker is asked just if the loop polls. -/
private theorem Follows.step {now : Nat} {cancelled : Bool} {happenings : List Happening}
    (follows : consumer.Follows settings topic client broker polled)
    (moved : consumer.LoopStep now cancelled broker after happenings) :
    ∃ client, after.Follows settings topic client broker
      (polled.or
        (if consumer.isAsking && !cancelled && broker.failure?.isNone then some broker
        else none)) := by
  cases moved with
  | ended reason isRunning =>
      have unasked : (consumer.isAsking && !cancelled && broker.failure?.isNone) =
          false := by
        rcases reason with rfl | ⟨message, holding, _⟩
        · simp
        · simp [isAsking, holding]
      rw [unasked]
      simp only [Bool.false_eq_true, if_false, Option.or_none]
      exact ⟨client, follows.endLoop isRunning⟩
  | turned turns goesOn =>
      rw [turns.not_isAsking]
      simp only [Bool.false_and, Bool.false_eq_true, if_false, Option.or_none]
      exact ⟨client, follows.goOn turns⟩
  | asked goesOn asking =>
      simpa [goesOn, asking] using follows.poll asking (follows.pollOf asking)
  | put holds hasReceiver hasRoom goesOn =>
      have unasked : consumer.isAsking = false := by
        simp [isAsking, holds]
      rw [unasked]
      simp only [Bool.false_and, Bool.false_eq_true, if_false, Option.or_none]
      exact ⟨client, follows.put holds hasReceiver⟩

theorem Follows.mem_received (follows : consumer.Follows settings topic client broker polled)
    {message : Message} (member : message ∈ consumer.received) :
    ∃ (offset : Nat) (stored : Stored), (broker.log topic.name)[offset]? = some stored ∧
      topic.message? offset stored = some message := by
  have progress := follows.progress
  obtain rfl := follows.sameTopic
  have touched (untouched : consumer.IsUntouched client) : False := by
    rw [untouched.received_eq_nil] at member
    cases member
  cases progress with
  | unasked untouched => exact (touched untouched).elim
  | refused nowhere untouched isEnded => exact (touched untouched).elim
  | started starts reads =>
      obtain ⟨offset, stored, _, found, made⟩ :=
        Broker.mem_messagesFrom_iff.mp (reads.received_isPrefix.subset member)
      exact ⟨offset, stored, found, made⟩

/-! ## One action -/

/-- Whatever is done to a consumer, it follows its topic. -/
theorem Changes.follows {system : System} {n : Nat} {action : Action} {reply : Reply}
    {happenings : List Happening}
    (changed : consumer.Changes system n action reply happenings after brokerAfter)
    (there : system.consumers[n]? = some consumer)
    (follows : consumer.Follows settings topic client system.broker polled) :
    ∃ client, after.Follows settings topic client brokerAfter
      (polled.or (system.polled? n action)) := by
  have grown := changed.stores.log_grows topic.name
  cases changed with
  | opened opens =>
      simpa [System.polled?] using follows.opens opens
  | received canReceive taken =>
      exact ⟨client, by simpa [System.polled?] using follows.receive taken⟩
  | inboxClosed canReceive =>
      have closed : consumer.closeInbox.Follows settings topic client system.broker polled :=
        follows.shut List.prefix_rfl true
      exact ⟨client, by simpa [System.polled?] using closed⟩
  | inboxDropped =>
      have dropped : consumer.dropInbox.Follows settings topic client system.broker polled :=
        follows.shut List.nil_prefix false
      exact ⟨client, by simpa [System.polled?] using dropped⟩
  | closeBegun isHeld first =>
      simpa [System.polled?] using follows.beginClose system.now
  | dropped =>
      have dropped : consumer.drop.Follows settings topic client system.broker polled :=
        follows.same rfl rfl rfl rfl rfl
      exact ⟨client, by simpa [System.polled?] using dropped⟩
  | committed done =>
      obtain rfl := commit_memory follows.memory done
      exact ⟨client, by simpa [System.polled?] using follows.grow grown⟩
  | acked done =>
      obtain ⟨receipts, rfl, unchanged⟩ := ack?_memory follows.memory done
      have marked : Follows settings topic { consumer with receipts := receipts } client
          system.broker polled := follows.same rfl rfl unchanged rfl rfl
      exact ⟨client, by simpa [System.polled?] using marked.grow grown⟩
  | revised scripted =>
      rw [follows.memory] at scripted
      cases scripted
  | callsTaken scripted =>
      rw [follows.memory] at scripted
      cases scripted
  | looped moved =>
      simpa [System.polled?, there, System.isPolling] using follows.step (loopStep?_step moved)
  | closeStepped moved =>
      unfold closeStep? at moved
      split at moved
      · rename_i isEnded
        cases moved
        refine ⟨client.close, ?_⟩
        simpa [System.polled?] using follows.finishClose (by simp [isEnded, PollLoop.isRunning])
      · cases moved
        have closed : Follows settings topic
            { consumer with closing := .done (.error (.shutdown .pollLoop)) } client system.broker
            polled :=
          follows.same rfl rfl rfl rfl rfl
        exact ⟨client, by simpa [System.polled?] using closed⟩
      · cases moved

end Consumer

namespace System

variable {settings : Settings.Consumer} {topic : Topic} {system : System} {n : Nat}
  {polled : Option Broker}

/-- The consumer with a number was made with the settings and follows a topic. -/
def HasFollower (system : System) (n : Nat) (settings : Settings.Consumer) (topic : Topic)
    (polled : Option Broker) : Prop :=
  ∃ consumer client, system.consumers[n]? = some consumer ∧
    consumer.Follows settings topic client system.broker polled

/-- A loop that cannot move does not poll. -/
theorem polled?_of_stuck {action : Action} {consumer : Consumer}
    (there : system.consumers[n]? = some consumer)
    (stuck : action = .step (.pollLoop n) →
      consumer.loopStep? system.now (system.isConsumerStopped consumer) system.broker = none) :
    system.polled? n action = none := by
  unfold polled?
  split
  · rename_i m
    split
    · rename_i turn
      obtain ⟨rfl, polling⟩ := turn
      simp only [there, Option.any_some, isPolling, Bool.and_eq_true,
        Bool.not_eq_true'] at polling
      have unmoved := stuck rfl
      rw [polling.1.2] at unmoved
      have silent := Consumer.not_asking_of_stuck unmoved
      rw [polling.1.1] at silent
      cases silent
    · rfl
  · rfl

theorem HasFollower.next (follower : system.HasFollower n settings topic polled)
    (action : Action) :
    (system.next action).HasFollower n settings topic (polled.or (system.polled? n action)) := by
  obtain ⟨consumer, client, there, follows⟩ := follower
  rcases (system.act_effect action).consumer_frame there with
    ⟨moved, thereAfter, changed⟩ | ⟨thereAfter, _, stuck⟩
  · obtain ⟨clientAfter, followsAfter⟩ := changed.follows there follows
    exact ⟨moved, clientAfter, thereAfter, followsAfter⟩
  · have grown := (system.next_broker action).log_grows topic.name
    rw [polled?_of_stuck there stuck, Option.or_none]
    exact ⟨consumer, client, thereAfter, follows.grow grown⟩

/-- After any run a consumer follows its topic from the place that its first poll has settled. -/
theorem HasFollower.after (follower : system.HasFollower n settings topic polled)
    (actions : List Action) :
    (system.after actions).HasFollower n settings topic
      (polled.or (system.firstPolled? n actions)) := by
  induction actions generalizing system polled with
  | nil => simpa [firstPolled?] using follower
  | cons action rest inductionHypothesis =>
      have followed := inductionHypothesis (follower.next action)
      rw [Option.or_assoc] at followed
      exact followed

/-- Every consumer of the broker follows its topic. -/
def ReadersFollow (system : System) : Prop :=
  ∀ ⦃n : Nat⦄ ⦃consumer : Consumer⦄ ⦃client : Client⦄, system.consumers[n]? = some consumer →
    consumer.source = .memory client →
      ∃ settings polled, consumer.Follows settings consumer.topic client system.broker polled

theorem readersFollow_ofRegistry (registry : Registry) : (ofRegistry registry).ReadersFollow := by
  intro n consumer client there
  cases there

private theorem exists_of_map_eq_ok {ε α β : Type} {result : Except ε α} {use : α → β} {mapped : β}
    (succeeds : result.map use = .ok mapped) :
    ∃ value, result = .ok value ∧ use value = mapped := by
  cases result with
  | error fault => cases succeeds
  | ok value =>
      cases succeeds
      exact ⟨value, rfl, rfl⟩

theorem follows_ofInlet {registry : Registry} {kind : Payload.Kind} {inlet : Inlet}
    {scope : String} {made : Consumer} {client : Client}
    (making : Consumer.ofInlet registry kind inlet scope = .ok made)
    (memory : made.source = .memory client) (broker : Broker) :
    ∃ settings, made.Follows settings made.topic client broker none := by
  unfold Consumer.ofInlet at making
  split at making
  · cases making
  · rename_i source settings resolved
    split at making
    · cases making
    · rename_i topic bound
      cases making
      have same : source = .memory client := memory
      subst same
      cases inlet with
      | memory options =>
          obtain ⟨found, _, paired⟩ := exists_of_map_eq_ok resolved
          cases paired
          exact ⟨settings, Consumer.follows_create broker scope⟩
      | remote options =>
          obtain ⟨found, _, paired⟩ := exists_of_map_eq_ok resolved
          cases paired
      | scripted options script =>
          obtain ⟨found, _, paired⟩ := exists_of_map_eq_ok resolved
          cases paired

theorem ReadersFollow.next (readers : system.ReadersFollow) (action : Action) :
    (system.next action).ReadersFollow := by
  intro n consumer client there memory
  have effect := system.act_effect action
  cases before : system.consumers[n]? with
  | none =>
      obtain ⟨kind, inlet, scope, rfl, _, making⟩ := effect.consumer_origin before there
      obtain ⟨settings, follows⟩ := follows_ofInlet making memory
        (system.next (.addConsumer kind inlet scope)).broker
      exact ⟨settings, none, follows⟩
  | some old =>
      obtain ⟨after, found, akin⟩ := consumer_next before action
      obtain rfl : after = consumer := Option.some.inj (found.symm.trans there)
      obtain ⟨oldClient, oldMemory⟩ := akin.exists_client memory
      obtain ⟨settings, polled, follows⟩ := readers before oldMemory
      obtain ⟨found, foundClient, thereAfter, followsAfter⟩ :=
        HasFollower.next ⟨old, oldClient, before, follows⟩ action
      rw [there] at thereAfter
      cases thereAfter
      have sameClient := followsAfter.memory
      rw [memory] at sameClient
      cases sameClient
      rw [followsAfter.sameTopic]
      exact ⟨settings, _, followsAfter⟩

theorem ReadersFollow.after (readers : system.ReadersFollow) (actions : List Action) :
    (system.after actions).ReadersFollow :=
  after_of_next ReadersFollow (fun _ action readers => readers.next action) readers actions

end System

end TopicBus
