import TopicBus.Proofs.Delivery.Accounting
import TopicBus.Proofs.Delivery.Beginning
import TopicBus.Proofs.Reports.Polls

/-!
# Nobody sleeps over a record

Whoever has put a record into the log owes a notice, and gives it by a later step. A poll notes
how many notices were given before it looks for a record. So a record that comes behind the look
brings a notice that the poll has not noted: a poll that waits and was not woken has nothing to
read, unless somebody still owes a notice. It would not be so if a poll looked first and noted
the notices then, or if the notice were given before the record stands in the log.

A loop that waits for room holds the next message, and a loop that is over was told to stop, was
left by its receiver, or has told of a failure. When no task can move, nobody owes a notice, and
a consumer to which none of this has happened has read its topic to the end, or its inbox is
full.
-/

namespace TopicBus

/-! ## Notices -/

/-- How many notices there will have been as soon as nobody owes one. -/
def Broker.expected (broker : Broker) : Nat :=
  broker.notices + broker.owed

/-- The broker takes no notice back, and whatever comes into a log has a notice to come behind
it. -/
theorem Broker.Changes.expected {before after : Broker} {entries : List Entry}
    (changes : before.Changes entries after) :
    before.notices ≤ after.notices ∧ before.expected ≤ after.expected ∧
      (after.expected = before.expected → ∀ topic, after.log topic = before.log topic) := by
  cases changes with
  | same => exact ⟨Nat.le_refl _, Nat.le_refl _, fun _ _ => rfl⟩
  | committed group token => exact ⟨Nat.le_refl _, Nat.le_refl _, fun _ _ => rfl⟩
  | appended topic record =>
      have further : (before.append topic record).expected = before.expected + 1 := rfl
      rw [further]
      exact ⟨Nat.le_refl _, Nat.le_succ _, fun same => by omega⟩
  | pollsFailed reason =>
      have further : (before.failPolls reason).expected = before.expected + 1 := rfl
      rw [further]
      exact ⟨Nat.le_refl _, Nat.le_succ _, fun same => by omega⟩
  | notified owes =>
      have same : before.notify.expected = before.expected := by
        simp only [Broker.expected, Broker.notify]
        omega
      exact ⟨Nat.le_succ _, Nat.le_of_eq same.symm, fun _ _ => rfl⟩

/-- What is to be read at a position depends on the log of the topic only. -/
theorem Client.recordAt?_of_log {before after : Broker} {topic : String}
    (same : after.log topic = before.log topic) (position : Int) :
    recordAt? after topic position = recordAt? before topic position := by
  unfold recordAt?
  rw [same]

namespace Consumer

variable {settings : Settings.Consumer} {topic : Topic} {consumer after : Consumer}
  {client clientAfter : Client} {broker brokerAfter : Broker} {polled : Option Broker}
  {happenings : List Happening}

/-! ## Waiting -/

/-- A poll has noted no more notices than were given. If it waits and no further notice is
expected, no record stands where the client reads next. -/
structure Attends (consumer : Consumer) (client : Client) (broker : Broker) : Prop where
  noted : ∀ notices, consumer.loop = .looking notices →
    ∃ seen, notices = some seen ∧ seen ≤ broker.notices
  waits : ∀ deadline notices, consumer.loop = .waiting deadline notices →
    ∃ seen position, notices = some seen ∧ client.position = some position ∧
      seen ≤ broker.notices ∧
      (broker.expected = seen → Client.recordAt? broker consumer.topic.name position = none)

private theorem attends_of_awake (unlooking : ∀ notices, consumer.loop ≠ .looking notices)
    (awake : ∀ deadline notices, consumer.loop ≠ .waiting deadline notices) :
    consumer.Attends client broker where
  noted notices looking := absurd looking (unlooking notices)
  waits deadline notices waiting := absurd waiting (awake deadline notices)

/-- Whatever becomes of the broker, a loop goes on to attend. -/
theorem Attends.grow {entries : List Entry} (attends : consumer.Attends client broker)
    (changes : broker.Changes entries brokerAfter) (sameTopic : after.topic = consumer.topic)
    (sameLoop : after.loop = consumer.loop)
    (samePosition : clientAfter.position = client.position) :
    after.Attends clientAfter brokerAfter := by
  obtain ⟨given, further, still⟩ := changes.expected
  constructor
  · intro notices looking
    rw [sameLoop] at looking
    obtain ⟨seen, noted, before⟩ := attends.noted notices looking
    exact ⟨seen, noted, Nat.le_trans before given⟩
  · intro deadline notices waiting
    rw [sameLoop] at waiting
    obtain ⟨seen, position, awaited, placed, before, nothing⟩ :=
      attends.waits deadline notices waiting
    refine ⟨seen, position, awaited, samePosition.trans placed, Nat.le_trans before given, ?_⟩
    intro unexpected
    have atLeast : seen ≤ broker.expected := Nat.le_trans before (Nat.le_add_right _ _)
    have same : brokerAfter.expected = broker.expected := by omega
    rw [sameTopic, Client.recordAt?_of_log (still same consumer.topic.name)]
    exact nothing (same.symm.trans unexpected)

/-- A poll that begins notes the notices that were given. -/
private theorem Turns.attends {now : Nat} {loop : PollLoop}
    (turns : consumer.Turns now broker loop) (memory : consumer.source = .memory client) :
    Attends { consumer with loop := loop } client broker := by
  cases turns with
  | begun polling =>
      rw [memory]
      constructor
      · intro notices looking
        cases looking
        exact ⟨broker.notices, rfl, Nat.le_refl _⟩
      · intro deadline notices waiting
        cases waiting
  | woken waiting noticed => exact attends_of_awake (by simp) (by simp)
  | expired waiting isDue => exact attends_of_awake (by simp) (by simp)

/-- A poll that looks and finds nothing has noted the notices before. -/
private theorem PollOf.attends {now : Nat} (attends : consumer.Attends client broker)
    (polling : consumer.PollOf client now broker after happenings)
    (memory : after.source = .memory clientAfter) : after.Attends clientAfter broker := by
  cases polling with
  | broken failure => exact attends_of_awake (by simp [endLoop]) (by simp [endLoop])
  | unplaced works nowhere => exact attends_of_awake (by simp [endLoop]) (by simp [endLoop])
  | idle works next nothing =>
      cases memory
      cases loop : consumer.loop with
      | looking notices =>
          obtain ⟨seen, rfl, given⟩ := attends.noted notices loop
          constructor
          · intro notices looking
            cases looking
          · intro deadline notices waiting
            cases waiting
            exact ⟨seen, _, rfl, rfl, given, fun _ => nothing⟩
      | unstarted | missing | polling | waiting deadline notices | lookingAgain | holding message
      | ended | crashed =>
          apply attends_of_awake
          · simp [PollLoop.afterNothing]
          · simp [PollLoop.afterNothing]
  | @fetched offset stored works next found =>
      apply attends_of_awake
      · cases consumer.topic.message? offset stored <;> simp [PollLoop.afterRecord]
      · cases consumer.topic.message? offset stored <;> simp [PollLoop.afterRecord]

private theorem polled?_of_other {system : System} {n : Nat} {action : Action}
    (other : action ≠ .step (.pollLoop n)) : system.polled? n action = none := by
  unfold System.polled?
  split
  · rename_i m
    have different : m ≠ n := by
      rintro rfl
      exact other rfl
    simp [different]
  · rfl

/-- Whatever is done to a consumer, it attends. -/
theorem Changes.attends {system : System} {n : Nat} {action : Action} {reply : Reply}
    (changed : consumer.Changes system n action reply happenings after brokerAfter)
    (there : system.consumers[n]? = some consumer)
    (follows : consumer.Follows settings topic client system.broker polled)
    (attends : consumer.Attends client system.broker) :
    ∃ clientAfter, after.source = .memory clientAfter ∧ after.Attends clientAfter brokerAfter := by
  obtain ⟨clientAfter, followsAfter⟩ := changed.follows there follows
  have memory : after.source = .memory clientAfter := followsAfter.memory
  refine ⟨clientAfter, memory, ?_⟩
  by_cases turn : action = .step (.pollLoop n)
  · subst turn
    cases changed with
    | looped moved =>
        cases loopStep?_step moved with
        | ended reason isRunning => exact attends_of_awake (by simp [endLoop]) (by simp [endLoop])
        | turned turns goesOn =>
            have same : consumer.source = .memory clientAfter := memory
            exact turns.attends same
        | put holds hasReceiver hasRoom goesOn => exact attends_of_awake (by simp) (by simp)
        | asked goesOn asking => exact PollOf.attends attends (follows.pollOf asking) memory
  · have unasked : system.polled? n action = none := polled?_of_other turn
    rcases changed.loop_cases follows.memory with ⟨same, _⟩ |
      ⟨_, _, spares | ⟨_, source, rfl | rfl⟩⟩
    · exact absurd same turn
    · by_cases opened : consumer.isOpened = true
      · rcases changed.poll_cases there follows with ⟨asked, _⟩ | ⟨_, _, still⟩
        · rw [unasked] at asked
          cases asked
        · obtain ⟨other, otherMemory, samePosition⟩ := still opened
          rw [memory] at otherMemory
          cases otherMemory
          exact attends.grow changed.stores spares.topic spares.loop samePosition
      · have unstarted : after.loop = .unstarted := by
          rw [spares.loop, unstarted_of_not_isOpened opened]
        exact attends_of_awake (by simp [unstarted]) (by simp [unstarted])
    · exact attends_of_awake (by simp) (by simp)
    · exact attends_of_awake (by simp) (by simp)

/-! ## The end of a loop -/

/-- A loop that is over was told to stop, or nobody has received any more, or it has told of a
poll that failed. -/
def HasReason (system : System) (consumer : Consumer) (happenings : List Happening) : Prop :=
  consumer.loop.isRunning = false →
    system.isConsumerStopped consumer = true ∨ consumer.inbox.hasReceiver = false ∨
      ∃ fault, .noted (.pollFailed consumer.topic.name fault) ∈ happenings

private theorem hasReason_of_isRunning {system : System}
    (isRunning : consumer.loop.isRunning = true) :
    consumer.HasReason system happenings := by
  intro isOver
  rw [isRunning] at isOver
  cases isOver

private theorem PollOf.hasReason {system : System} {now : Nat}
    (polling : consumer.PollOf client now broker after happenings) (earlier : List Happening) :
    after.HasReason system (earlier ++ happenings) := by
  cases polling with
  | broken failure =>
      intro _
      exact .inr (.inr ⟨_, List.mem_append_right _ (List.mem_singleton.mpr rfl)⟩)
  | unplaced works nowhere =>
      intro _
      exact .inr (.inr ⟨_, List.mem_append_right _ (List.mem_singleton.mpr rfl)⟩)
  | idle works next nothing =>
      exact hasReason_of_isRunning (PollLoop.isRunning_afterNothing _ _)
  | fetched works next found =>
      exact hasReason_of_isRunning (PollLoop.isRunning_afterRecord _)

/-- Whatever is done to a consumer, its loop does not end without a reason. -/
theorem Changes.hasReason {system : System} {n : Nat} {action : Action} {reply : Reply}
    {earlier : List Happening}
    (changed : consumer.Changes system n action reply happenings after brokerAfter)
    (follows : consumer.Follows settings topic client system.broker polled)
    (hasReason : consumer.HasReason system earlier) :
    after.HasReason system (earlier ++ happenings) := by
  rcases changed.loop_cases follows.memory with
    ⟨_, step⟩ | ⟨_, rfl, spares | ⟨unstarted, source, rfl | rfl⟩⟩
  · cases step with
    | ended reason isRunning =>
        intro _
        rcases reason with stopped | ⟨message, holds, nobody⟩
        · exact .inl stopped
        · exact .inr (.inl nobody)
    | turned turns goesOn => exact hasReason_of_isRunning turns.leadsTo.1
    | put holds hasReceiver hasRoom goesOn => exact hasReason_of_isRunning rfl
    | asked goesOn asking => exact (follows.pollOf asking).hasReason earlier
  · rw [List.append_nil]
    intro isOver
    rw [spares.loop] at isOver
    rcases hasReason isOver with stopped | nobody | told
    · exact .inl (spares.stays stopped)
    · refine .inr (.inl ?_)
      by_contra there
      rw [spares.receiver (by simpa using there)] at nobody
      cases nobody
    · rw [spares.topic]
      exact .inr (.inr told)
  · rw [List.append_nil]
    exact fun _ => hasReason (by rw [unstarted]; rfl)
  · exact hasReason_of_isRunning rfl

/-! ## A loop that cannot move -/

/-- A loop that goes on and cannot move waits for a notice or for room. -/
private theorem waits_of_stuck {now : Nat} (stuck : consumer.loopStep? now false broker = none)
    (isRunning : consumer.loop.isRunning = true) (hasReceiver : consumer.inbox.hasReceiver = true) :
    (∃ deadline notices, consumer.loop = .waiting deadline notices ∧
        notices.any (· < broker.notices) = false) ∨
      ∃ message, consumer.loop = .holding message ∧ consumer.inbox.hasRoom = false := by
  cases loop : consumer.loop with
  | polling | looking notices | lookingAgain => simp [loopStep?, loop] at stuck
  | waiting deadline notices =>
      refine .inl ⟨deadline, notices, rfl, ?_⟩
      by_contra noticed
      simp only [Bool.not_eq_false] at noticed
      simp [loopStep?, loop, noticed] at stuck
  | holding message =>
      refine .inr ⟨message, rfl, ?_⟩
      simpa [loopStep?, loop, hasReceiver] using stuck
  | unstarted | missing | ended | crashed =>
      rw [loop] at isRunning
      cases isRunning

/-- A poll that waits and was not woken has nothing to read as soon as nobody owes a notice. -/
private theorem Attends.nothing_left {deadline : Nat} {notices : Option Nat}
    (attends : consumer.Attends client broker) (waiting : consumer.loop = .waiting deadline notices)
    (unwoken : notices.any (· < broker.notices) = false) (settled : broker.owed = 0) :
    ∃ position, client.position = some position ∧
      Client.recordAt? broker consumer.topic.name position = none := by
  obtain ⟨seen, position, rfl, placed, before, nothing⟩ := attends.waits deadline notices waiting
  have unnoticed : broker.notices ≤ seen := by simpa using unwoken
  refine ⟨position, placed, nothing ?_⟩
  unfold Broker.expected
  omega

/-- A consumer that is not as it was made has started where its client starts, at its first poll. -/
private theorem Follows.started (follows : consumer.Follows settings topic client broker polled)
    (touched : ¬consumer.IsUntouched client) :
    ∃ first start position, polled = some first ∧
      client.startPosition first topic.name = .ok start ∧ client.position = some position ∧
      consumer.Reads client broker start position := by
  cases follows.progress with
  | unasked untouched => exact absurd untouched touched
  | refused nowhere untouched isEnded => exact absurd untouched touched
  | @started first start position starts reads =>
      refine ⟨first, start, position, rfl, ?_, reads.placed, reads⟩
      rw [Client.startPosition_eq follows.group follows.policy, ← follows.sameTopic, starts]

/-- Where no record stands at the position of a client that started inside the log, everything
was read. -/
private theorem Reads.whole {start position : Int}
    (reads : consumer.Reads client broker start position)
    (isWhole : 0 ≤ start)
    (nothing : Client.recordAt? broker consumer.topic.name position = none) :
    broker.size consumer.topic.name ≤ position ∧
      broker.messagesBetween consumer.topic start position =
        broker.messagesFrom consumer.topic start := by
  have begun : 0 ≤ position := by
    rcases reads.inside with same | ⟨_, beyond, _⟩
    · omega
    · omega
  have beyond : broker.size consumer.topic.name ≤ position := by
    by_contra inside
    have there : position.toNat < (broker.log consumer.topic.name).length := by
      unfold Broker.size at inside
      omega
    have found := Client.recordAt?_eq_some_iff.mpr
      ⟨position.toNat, _, (Int.toNat_of_nonneg begun).symm, List.getElem?_eq_getElem there, rfl⟩
    rw [nothing] at found
    cases found
  refine ⟨beyond, ?_⟩
  unfold Broker.messagesBetween Broker.messagesFrom
  rw [List.take_of_length_le]
  unfold Broker.size at beyond
  omega

end Consumer

namespace System

variable {system : System} {n : Nat} {consumer : Consumer} {client : Client}

/-! ## Runs -/

/-- A new consumer has no loop, and nobody receives from it. -/
private theorem unstarted_ofInlet {registry : Registry} {kind : Payload.Kind} {inlet : Inlet}
    {scope : String} {made : Consumer}
    (making : Consumer.ofInlet registry kind inlet scope = .ok made) :
    made.loop = .unstarted ∧ made.inbox.hasReceiver = false := by
  unfold Consumer.ofInlet at making
  split at making
  · cases making
  · split at making
    · cases making
    · cases making
      exact ⟨rfl, rfl⟩

/-- The consumer attends, and its loop does not end without a reason. -/
structure IsWakeful (system : System) (consumer : Consumer) (client : Client)
    (happenings : List Happening) : Prop where
  attends : consumer.Attends client system.broker
  hasReason : consumer.HasReason system happenings

private theorem isWakeful_of_unstarted (unstarted : consumer.loop = .unstarted)
    (nobody : consumer.inbox.hasReceiver = false) (happenings : List Happening) :
    system.IsWakeful consumer client happenings where
  attends := by
    apply Consumer.attends_of_awake
    · simp [unstarted]
    · simp [unstarted]
  hasReason _ := .inr (.inl nobody)

/-- Whatever is done on a bus, a wakeful consumer remains one. -/
private theorem IsWakeful.next {happenings : List Happening} {clientAfter : Client}
    {after : Consumer}
    (wakeful : system.IsWakeful consumer client happenings) (readers : system.ReadersFollow)
    (there : system.consumers[n]? = some consumer) (memory : consumer.source = .memory client)
    (action : Action) (thereAfter : (system.next action).consumers[n]? = some after)
    (memoryAfter : after.source = .memory clientAfter) :
    (system.next action).IsWakeful after clientAfter
      (happenings ++ happeningsOf (.consumer n) (system.act action).2.2) := by
  obtain ⟨settings, polled, follows⟩ := readers there memory
  have effect := system.act_effect action
  have stays (reason : after.HasReason system
      (happenings ++ happeningsOf (.consumer n) (system.act action).2.2)) :
      after.HasReason (system.next action)
        (happenings ++ happeningsOf (.consumer n) (system.act action).2.2) := by
    intro isOver
    exact (reason isOver).imp_left effect.isConsumerStopped
  rcases effect.consumer_frame there with ⟨moved, found, changed⟩ | ⟨found, silent, _⟩
  · obtain rfl : moved = after := Option.some.inj (found.symm.trans thereAfter)
    obtain ⟨other, otherMemory, attends⟩ := changed.attends there follows wakeful.attends
    rw [memoryAfter] at otherMemory
    cases otherMemory
    exact ⟨attends, stays (changed.hasReason follows wakeful.hasReason)⟩
  · obtain rfl : consumer = after := Option.some.inj (found.symm.trans thereAfter)
    rw [memory] at memoryAfter
    cases memoryAfter
    refine ⟨wakeful.attends.grow (system.next_broker action) rfl rfl rfl, stays ?_⟩
    rw [silent, List.append_nil]
    exact wakeful.hasReason

theorem isWakeful_after (registry : Registry) (actions : List Action)
    (there : ((ofRegistry registry).after actions).consumers[n]? = some consumer)
    (memory : consumer.source = .memory client) :
    ((ofRegistry registry).after actions).IsWakeful consumer client
      (happeningsOf (.consumer n) ((ofRegistry registry).events actions)) := by
  induction actions using List.reverseRecOn generalizing consumer client with
  | nil => cases there
  | append_singleton earlier action inductionHypothesis =>
      have readers := (readersFollow_ofRegistry registry).after earlier
      rw [events_append, happeningsOf_append]
      simp only [after_append, after_cons, after_nil] at there ⊢
      generalize (ofRegistry registry).after earlier = system at *
      cases before : system.consumers[n]? with
      | none =>
          obtain ⟨kind, inlet, scope, _, _, making⟩ :=
            (system.act_effect action).consumer_origin before there
          obtain ⟨unstarted, nobody⟩ := unstarted_ofInlet making
          exact isWakeful_of_unstarted unstarted nobody _
      | some old =>
          obtain ⟨same, found, akin⟩ := consumer_next before action
          obtain rfl : same = consumer := Option.some.inj (found.symm.trans there)
          obtain ⟨oldClient, oldMemory⟩ := akin.exists_client memory
          have wakeful := inductionHypothesis before oldMemory
          have further := wakeful.next readers before oldMemory action there memory
          simpa [events_cons] using further

/-- A wakeful consumer goes on where nothing gives its loop a reason to end. -/
private theorem IsWakeful.isRunning {happenings : List Happening}
    (wakeful : system.IsWakeful consumer client happenings)
    (goesOn : system.isConsumerStopped consumer = false)
    (hasReceiver : consumer.inbox.hasReceiver = true)
    (unfailed : ∀ fault, .noted (.pollFailed consumer.topic.name fault) ∉ happenings) :
    consumer.loop.isRunning = true := by
  by_contra isOver
  rcases wakeful.hasReason (by simpa using isOver) with stopped | nobody | ⟨fault, told⟩
  · rw [goesOn] at stopped
    cases stopped
  · rw [hasReceiver] at nobody
    cases nobody
  · exact unfailed fault told

/-! ## The theorem -/

/-- In every state where no task can move before time passes or something is done: a consumer of
the broker that still has a receiver, so that it was opened, and that was not told to stop and
has told of no failure, has started at some offset. Its inbox is full, and the loop holds the
message that comes after all that were received and that wait in the inbox; or no record stands
where it reads next, and if it started inside the log it has made everything from there on into
messages. -/
theorem quiet_reader_misses_nothing (registry : Registry) (actions : List Action) (n : Nat)
    (consumer : Consumer) (client : Client)
    (quiet : ((ofRegistry registry).after actions).IsQuiet)
    (there : ((ofRegistry registry).after actions).consumers[n]? = some consumer)
    (memory : consumer.source = .memory client)
    (goesOn : ((ofRegistry registry).after actions).isConsumerStopped consumer = false)
    (hasReceiver : consumer.inbox.hasReceiver = true)
    (unfailed : ∀ fault, ⟨.consumer n, .noted (.pollFailed consumer.topic.name fault)⟩ ∉
      (ofRegistry registry).events actions) :
    let final := (ofRegistry registry).after actions
    ∃ first start position, (ofRegistry registry).firstPolled? n actions = some first ∧
      client.startPosition first consumer.topic.name = .ok start ∧
      client.position = some position ∧
      ((∃ message, consumer.loop = .holding message ∧ consumer.inbox.hasRoom = false ∧
          consumer.received ++ consumer.inbox.queue ++ [message] <+:
            final.broker.messagesFrom consumer.topic start) ∨
        (Client.recordAt? final.broker consumer.topic.name position = none ∧
          (0 ≤ start → final.broker.size consumer.topic.name ≤ position ∧
            consumer.received ++ consumer.inbox.queue =
              final.broker.messagesFrom consumer.topic start))) := by
  intro final
  have wakeful : final.IsWakeful consumer client _ := isWakeful_after registry actions there memory
  obtain ⟨settings, follows, _⟩ := beginsAtStart_of_absent rfl there memory
  have isRunning := wakeful.isRunning goesOn hasReceiver fun fault told =>
    unfailed fault (mem_happeningsOf_iff.mp told)
  have stuck : consumer.loopStep? final.now false final.broker = none := by
    rw [← goesOn]
    exact quiet.loopStep?_eq_none there
  rcases Consumer.waits_of_stuck stuck isRunning hasReceiver with
    ⟨deadline, notices, waiting, unwoken⟩ | ⟨message, holding, isFull⟩
  · obtain ⟨here, placed, nothing⟩ :=
      wakeful.attends.nothing_left waiting unwoken quiet.owed_eq_zero
    have touched : ¬consumer.IsUntouched client := by
      intro untouched
      rw [untouched.unplaced] at placed
      cases placed
    obtain ⟨first, start, position, polled, starts, placedToo, reads⟩ := follows.started touched
    obtain rfl : position = here := Option.some.inj (placedToo.symm.trans placed)
    refine ⟨first, start, position, polled, starts, placed, .inr ⟨nothing, fun isWhole => ?_⟩⟩
    obtain ⟨beyond, whole⟩ := reads.whole isWhole nothing
    have complete := reads.complete isRunning hasReceiver
    simp only [waiting, PollLoop.held?, Option.toList_none, List.append_nil] at complete
    exact ⟨beyond, complete.trans whole⟩
  · have touched : ¬consumer.IsUntouched client := by
      intro untouched
      have nothing := untouched.holdsNothing
      rw [holding] at nothing
      cases nothing
    obtain ⟨first, start, position, polled, starts, placed, reads⟩ := follows.started touched
    refine ⟨first, start, position, polled, starts, placed, .inl ⟨message, holding, isFull, ?_⟩⟩
    have complete := reads.complete isRunning hasReceiver
    simp only [holding, PollLoop.held?, Option.toList_some] at complete
    rw [complete]
    exact final.broker.messagesBetween_prefix consumer.topic start position

/-- A consumer begins a poll, and a record of another topic comes before it looks. Nothing is
there for it, but the notice wakes it when it waits, and it looks again in vain and polls anew.
Behind its next look a record of its own comes. It waits, is woken when the notice is given, and
fetches the record. The application receives, and the consumer polls once more and waits. -/
def wokenTwice : List Action :=
  let turn : Action := .step (.pollLoop 0)
  [.addConsumer .unit (.memory []) "scope", .openConsumer 0, turn,
    .append "other" none (Scan.letters "null"), turn, .step .notify, turn, turn, turn, turn,
    .append "beat" none (Scan.letters "null"), .step .notify, turn, turn, turn, .receive 0, turn,
    turn, .pass 99]

theorem quiet_reader_misses_nothing_of_woken_twice :
    let final := (ofRegistry ⟨[(.unit, "beat")], [("beat", .unit)]⟩).after wokenTwice
    final.IsQuiet ∧ ∃ consumer, final.consumers[0]? = some consumer ∧
      consumer.loop = .waiting 100 (some 2) ∧ consumer.received.length = 1 ∧
      consumer.received ++ consumer.inbox.queue =
        final.broker.messagesFrom ⟨.unit, "beat"⟩ 0 := by
  intro final
  have quiet : final.IsQuiet := by
    intro task
    cases task with
    | pump n | drain n | closePublisher n | notify => rfl
    | pollLoop n | closeConsumer n =>
        cases n with
        | zero => rfl
        | succ n => rfl
  have told : happeningsOf (.consumer 0)
      ((ofRegistry ⟨[(.unit, "beat")], [("beat", .unit)]⟩).events wokenTwice) =
        [.fetched ⟨⟨"beat", 0, 0⟩, none, some (Scan.letters "null"), []⟩] := by
    decide +kernel
  have reading : final.consumers[0]?.map (fun consumer =>
      (consumer.topic, consumer.loop, consumer.received.length)) =
      some (⟨.unit, "beat"⟩, .waiting 100 (some 2), 1) := by
    decide +kernel
  have goingOn : final.consumers[0]?.map (fun consumer =>
      (final.isConsumerStopped consumer, consumer.inbox.hasReceiver)) = some (false, true) := by
    decide +kernel
  have placed : final.consumers[0]?.map Consumer.source =
      some (.memory ⟨none, .earliest, some "beat", some 1, 1⟩) := by
    decide +kernel
  obtain ⟨consumer, there, facts⟩ := Option.map_eq_some_iff.mp reading
  rw [there] at goingOn placed
  simp only [Option.map_some, Option.some.injEq, Prod.mk.injEq] at facts goingOn placed
  obtain ⟨topic, waiting, received⟩ := facts
  obtain ⟨goesOn, hasReceiver⟩ := goingOn
  refine ⟨quiet, consumer, there, waiting, received, ?_⟩
  have unfailed (fault : Fault) : ⟨.consumer 0, .noted (.pollFailed consumer.topic.name fault)⟩ ∉
      (ofRegistry ⟨[(.unit, "beat")], [("beat", .unit)]⟩).events wokenTwice := by
    intro event
    have member := mem_happeningsOf_iff.mpr event
    rw [told] at member
    simp at member
  obtain ⟨first, start, position, _, starts, _, holds | ⟨_, whole⟩⟩ :=
    quiet_reader_misses_nothing ⟨[(.unit, "beat")], [("beat", .unit)]⟩ wokenTwice 0 consumer _
      quiet there placed goesOn hasReceiver unfailed
  · obtain ⟨message, holding, _⟩ := holds
    rw [waiting] at holding
    cases holding
  · cases starts
    rw [topic] at whole
    exact (whole (by decide)).2

end System

end TopicBus
