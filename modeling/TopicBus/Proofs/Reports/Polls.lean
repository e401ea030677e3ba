import TopicBus.Proofs.Delivery.Accounting
import TopicBus.Proofs.Reports.Fates

/-!
# What becomes of the polls of a consumer

A record that was fetched is made into a message, or a line says that it was skipped; a failing
poll leaves a line, too, and it is the last one. So all that can be observed of a consumer can
be told from what its polls come to, where each look of a poll counts by itself. The messages go
into the inbox in order; only the one that the loop holds when it is stopped, or when nobody
receives any more, gets lost.
-/

namespace TopicBus

/-! ## Records and polls -/

namespace Topic

variable (topic : Topic)

/-- The message that a record is made into, if its payload decodes. -/
def makes? (record : Record) : Option Message :=
  match record.payload with
  | none => none
  | some payload =>
      match Payload.decode topic.kind payload with
      | .error _ => none
      | .ok value => some (Message.ofRecord record value)

/-- The line that is left for the operator when a record is skipped. -/
def skips? (record : Record) : Option Note :=
  match record.payload with
  | none => some (.emptyRecord record.token)
  | some payload =>
      match Payload.decode topic.kind payload with
      | .error _ => some (.undecodable record.token)
      | .ok _ => none

/-- What can be observed of a poll. -/
def linesOf : Polled → List Happening
  | .record found => .fetched found :: (topic.skips? found).toList.map .noted
  | .failed fault => [.noted (.pollFailed topic.name fault)]
  | .nothing | .idle | .crashed => []

/-- A record is made into a message, or it is skipped. -/
theorem skips?_eq_none_iff {record : Record} :
    topic.skips? record = none ↔ ∃ message, topic.makes? record = some message := by
  unfold skips? makes?
  cases record.payload with
  | none => simp
  | some payload => cases decoding : Payload.decode topic.kind payload <;> simp [decoding]

/-- A record is skipped because nothing is in it, or because what is in it does not decode. -/
theorem skips?_eq_some {record : Record} {note : Note} (skipped : topic.skips? record = some note) :
    (record.payload = none ∧ note = .emptyRecord record.token) ∨
      ∃ payload flaw, record.payload = some payload ∧
        Payload.decode topic.kind payload = .error flaw ∧ note = .undecodable record.token := by
  unfold skips? at skipped
  cases there : record.payload with
  | none =>
      rw [there] at skipped
      exact .inl ⟨rfl, (Option.some.inj skipped).symm⟩
  | some payload =>
      cases decoding : Payload.decode topic.kind payload with
      | ok value =>
          simp only [there, decoding] at skipped
          cases skipped
      | error flaw =>
          simp only [there, decoding] at skipped
          exact .inr ⟨payload, flaw, rfl, decoding, (Option.some.inj skipped).symm⟩

/-- The line about a skipped record is a warning that tells where the record is. -/
theorem skips?_warns {record : Record} {note : Note} (skipped : topic.skips? record = some note) :
    note.level = .warn ∧ ∀ label, ∃ middle rest,
      note.text label = "Skipping message" ++ middle ++ Note.place record.token ++ rest := by
  obtain ⟨_, rfl⟩ | ⟨_, _, _, _, rfl⟩ := topic.skips?_eq_some skipped
  · refine ⟨rfl, fun label => ⟨" with no payload from ", "", ?_⟩⟩
    have begins : "Skipping message" ++ " with no payload from " =
        "Skipping message with no payload from " := by decide
    rw [begins, String.append_empty]
    rfl
  · refine ⟨rfl, fun label => ⟨" from ", ": deserialization error", ?_⟩⟩
    have begins : "Skipping message" ++ " from " = "Skipping message from " := by decide
    rw [begins]
    rfl

end Topic

/-- The record that a poll has returned, if it has. -/
def Polled.record? : Polled → Option Record
  | .record found => some found
  | _ => none

namespace Consumer

variable {consumer after : Consumer} {client : Client} {now : Nat} {broker brokerAfter : Broker}
  {happenings : List Happening}

/-! ## Single steps -/

theorem handle_lines (consumer : Consumer) (record : Record) :
    consumer.handle record = ({ consumer with loop := .afterRecord (consumer.topic.makes? record) },
      consumer.topic.linesOf (.record record)) := by
  unfold handle Topic.linesOf Topic.makes? Topic.skips?
  cases there : record.payload with
  | none => simp [there, PollLoop.afterRecord]
  | some payload =>
      cases decoding : Payload.decode consumer.topic.kind payload <;>
        simp [there, decoding, PollLoop.afterRecord]

/-- What a step of a loop that looks comes to can be told from what it has seen. -/
structure Asked (consumer : Consumer) (polled : Polled) (after : Consumer)
    (happenings : List Happening) : Prop where
  topic : after.topic = consumer.topic
  lines : happenings = consumer.topic.linesOf polled
  inbox : after.inbox.hasReceiver = consumer.inbox.hasReceiver ∧
    after.received ++ after.inbox.queue = consumer.received ++ consumer.inbox.queue
  held : after.loop.held? = polled.record?.bind consumer.topic.makes?
  failed : ∀ fault, polled = .failed fault → after.loop.isRunning = false
  made : after.loop.isRunning = false → after.loop.held? = none
  isOpened : after.loop ≠ .unstarted

theorem look_asked (consumer : Consumer) (now : Nat) (broker : Broker) :
    consumer.Asked (consumer.source.poll broker).1 (consumer.look now broker).1
      (consumer.look now broker).2 := by
  unfold look
  cases consumer.source.poll broker with
  | mk polled source =>
      cases polled with
      | record record =>
          simp only [handle_lines]
          refine ⟨rfl, rfl, ⟨rfl, rfl⟩, ?_, ?_, ?_, ?_⟩
          · exact PollLoop.held?_afterRecord _
          · intro fault failed
            cases failed
          · intro isOver
            rw [PollLoop.isRunning_afterRecord] at isOver
            cases isOver
          · exact PollLoop.ne_unstarted_of_isRunning (PollLoop.isRunning_afterRecord _)
      | nothing => exact ⟨rfl, rfl, ⟨rfl, rfl⟩, rfl, by simp, fun _ => rfl, by simp⟩
      | idle =>
          exact ⟨rfl, rfl, ⟨rfl, rfl⟩, PollLoop.held?_afterNothing _ _, by simp,
            fun _ => PollLoop.held?_afterNothing _ _,
            PollLoop.ne_unstarted_of_isRunning (PollLoop.isRunning_afterNothing _ _)⟩
      | failed fault =>
          exact ⟨rfl, rfl, ⟨rfl, rfl⟩, rfl, fun _ _ => rfl, fun _ => rfl, by simp [endLoop]⟩
      | crashed => exact ⟨rfl, rfl, ⟨rfl, rfl⟩, rfl, by simp, fun _ => rfl, by simp [endLoop]⟩

/-- What a change leaves as it is that is not a matter of the loop. -/
structure Spares (system : System) (consumer after : Consumer) : Prop where
  topic : after.topic = consumer.topic
  loop : after.loop = consumer.loop
  stays : system.isConsumerStopped consumer = true → system.isConsumerStopped after = true
  receiver : after.inbox.hasReceiver = true → consumer.inbox.hasReceiver = true
  arrived : after.received ++ after.inbox.queue = consumer.received ++ consumer.inbox.queue ∨
    (after.inbox.hasReceiver = false ∧ after.received = consumer.received ∧ after.inbox.queue = [])

private theorem Spares.nobody {system : System} (spares : consumer.Spares system after)
    (nobody : consumer.inbox.hasReceiver = false) : after.inbox.hasReceiver = false := by
  cases there : after.inbox.hasReceiver with
  | false => rfl
  | true =>
      rw [spares.receiver there] at nobody
      cases nobody

private theorem Closes.spares {system : System} {clientAfter : Client}
    (closes : consumer.Closes client after clientAfter) : consumer.Spares system after := by
  obtain ⟨stopped, closing, stops, rfl⟩ := closes.unchanged
  refine ⟨rfl, rfl, ?_, id, .inl rfl⟩
  simp only [System.isConsumerStopped, Bool.or_eq_true]
  exact Or.imp_left stops

/-- A change of a consumer of the broker starts its loop, it is a step of it, or it does not
matter to it. -/
theorem Changes.loop_cases {system : System} {n : Nat} {action : Action} {reply : Reply}
    (changed : consumer.Changes system n action reply happenings after brokerAfter)
    (memory : consumer.source = .memory client) :
    (action = .step (.pollLoop n) ∧
        consumer.LoopStep system.now (system.isConsumerStopped consumer) system.broker after
          happenings) ∨
      (action ≠ .step (.pollLoop n) ∧ happenings = [] ∧
        (consumer.Spares system after ∨
          (consumer.loop = .unstarted ∧ ∃ source,
            (after = { consumer with source := source, loop := .missing } ∨
              after = { consumer with
                source := source
                inbox := .ofBuffer consumer.buffer
                loop := .polling })))) := by
  cases changed with
  | looped moved => exact .inl ⟨rfl, loopStep?_step moved⟩
  | opened opens =>
      refine .inr ⟨by simp, rfl, ?_⟩
      cases opens with
      | again isOpened | refused unstarted subscribing =>
          exact .inl ⟨rfl, rfl, id, id, .inl rfl⟩
      | crashed unstarted subscribing tooLarge => exact .inr ⟨unstarted, _, .inl rfl⟩
      | started unstarted subscribing fits => exact .inr ⟨unstarted, _, .inr rfl⟩
  | received canReceive taken =>
      refine .inr ⟨by simp, rfl, .inl ?_⟩
      obtain ⟨⟨head, inbox⟩, popped, same⟩ := Option.map_eq_some_iff.mp taken
      cases same
      obtain ⟨rest, queued, rfl⟩ := Channel.pop?_eq_some_iff.mp popped
      refine ⟨rfl, rfl, id, id, .inl ?_⟩
      simp [Consumer.received, queued]
  | inboxClosed canReceive =>
      refine .inr ⟨by simp, rfl, .inl ⟨rfl, rfl, id, ?_, .inl rfl⟩⟩
      intro there
      cases there
  | inboxDropped =>
      refine .inr ⟨by simp, rfl, .inl ⟨rfl, rfl, id, ?_, .inr ⟨rfl, rfl, rfl⟩⟩⟩
      intro there
      cases there
  | closeBegun isHeld first =>
      obtain ⟨clientAfter, closes⟩ := closes_beginClose memory system.now
      exact .inr ⟨by simp, rfl, .inl closes.spares⟩
  | dropped =>
      refine .inr ⟨by simp, rfl, .inl ⟨rfl, rfl, ?_, id, .inl rfl⟩⟩
      intro _
      simp [System.isConsumerStopped, drop]
  | committed done =>
      obtain rfl := commit_memory memory done
      exact .inr ⟨by simp, rfl, .inl ⟨rfl, rfl, id, id, .inl rfl⟩⟩
  | acked done =>
      obtain ⟨receipts, rfl, unchanged⟩ := ack?_memory memory done
      refine .inr ⟨by simp, rfl, .inl ⟨rfl, rfl, id, id, .inl ?_⟩⟩
      rw [← unchanged]
      rfl
  | revised scripted =>
      rw [memory] at scripted
      cases scripted
  | callsTaken scripted =>
      rw [memory] at scripted
      cases scripted
  | closeStepped moved =>
      obtain ⟨clientAfter, closes⟩ := closes_closeStep? memory moved
      exact .inr ⟨by simp, rfl, .inl closes.spares⟩

/-- What can be observed of a change of a consumer is what can be observed of one poll. -/
theorem Changes.lines {system : System} {n : Nat} {action : Action} {reply : Reply}
    {happening : Happening}
    (changed : consumer.Changes system n action reply happenings after brokerAfter)
    (member : happening ∈ happenings) : ∃ polled, happenings = consumer.topic.linesOf polled := by
  cases changed with
  | looped moved =>
      cases loopStep?_step moved with
      | ended reason isRunning => cases member
      | turned turns goesOn => cases member
      | asked goesOn asking => exact ⟨_, (look_asked consumer system.now system.broker).lines⟩
      | put holds hasReceiver hasRoom goesOn => cases member
  | opened opens | received canReceive taken | inboxClosed canReceive | inboxDropped
  | closeBegun isHeld first | dropped
  | committed done | acked done | revised scripted | callsTaken scripted | closeStepped moved =>
      cases member

/-! ## The account of a consumer -/

/-- The message that the next step of the loop puts into the inbox. -/
def puts? (consumer : Consumer) (cancelled : Bool) : Option Message :=
  if cancelled || !consumer.inbox.hasReceiver || !consumer.inbox.hasRoom then none
  else consumer.loop.held?

/-- What can be observed of a consumer is what its polls tell, and its messages were put into
the inbox; one may be waiting, which the loop still holds, or which was lost when the consumer
was stopped or nobody received any more. -/
structure Reports (consumer : Consumer) (isStopped : Bool) (polls : List Polled)
    (put : List Message) (happenings : List Happening) : Prop where
  lines : happenings = polls.flatMap consumer.topic.linesOf
  failed : ∀ first fault rest, polls = first ++ .failed fault :: rest →
    rest = [] ∧ consumer.loop.isRunning = false
  unopened : consumer.loop = .unstarted → polls = [] ∧
    consumer.received ++ consumer.inbox.queue = [] ∧ consumer.inbox.hasReceiver = false
  arrived : consumer.inbox.hasReceiver = true → consumer.received ++ consumer.inbox.queue = put
  made : ∃ waiting : Option Message,
    (polls.filterMap Polled.record?).filterMap consumer.topic.makes? = put ++ waiting.toList ∧
    (consumer.loop.isRunning = true → waiting = consumer.loop.held?) ∧
    (consumer.loop.isRunning = false → waiting.isSome = true →
      isStopped = true ∨ consumer.inbox.hasReceiver = false)

variable {isStopped stoppedAfter : Bool} {polls : List Polled} {put : List Message}

theorem reports_create (topic : Topic) (source : Source) (settings : Settings.Consumer)
    (scope : String) (isStopped : Bool) :
    (create topic source settings scope).Reports isStopped [] [] [] where
  lines := rfl
  failed first fault rest shape := by simp at shape
  unopened _ := ⟨rfl, rfl, rfl⟩
  arrived there := by cases there
  made := ⟨none, rfl, fun _ => rfl, fun _ some => by cases some⟩

/-- Who was told to stop is not told otherwise. -/
private theorem Reports.later (reports : consumer.Reports isStopped polls put happenings)
    (stays : isStopped = true → stoppedAfter = true) :
    consumer.Reports stoppedAfter polls put happenings := by
  obtain ⟨waiting, made, held, lost⟩ := reports.made
  refine ⟨reports.lines, reports.failed, reports.unopened, reports.arrived,
    ⟨waiting, made, held, fun isOver some => ?_⟩⟩
  exact (lost isOver some).imp_left stays

private theorem Reports.spared {system : System}
    (reports : consumer.Reports (system.isConsumerStopped consumer) polls put happenings)
    (spares : consumer.Spares system after) :
    after.Reports (system.isConsumerStopped after) polls put happenings := by
  obtain ⟨waiting, made, held, lost⟩ := reports.made
  refine ⟨?_, ?_, ?_, ?_, ⟨waiting, ?_, ?_, ?_⟩⟩
  · rw [spares.topic]
    exact reports.lines
  · rw [spares.loop]
    exact reports.failed
  · intro unstarted
    rw [spares.loop] at unstarted
    obtain ⟨unpolled, empty, nobody⟩ := reports.unopened unstarted
    refine ⟨unpolled, ?_, spares.nobody nobody⟩
    rcases spares.arrived with same | ⟨_, received, queue⟩
    · rw [same]
      exact empty
    · rw [received, queue, List.append_nil]
      exact (List.append_eq_nil_iff.mp empty).1
  · intro there
    rcases spares.arrived with same | ⟨gone, _⟩
    · rw [same]
      exact reports.arrived (spares.receiver there)
    · rw [there] at gone
      cases gone
  · rw [spares.topic]
    exact made
  · rw [spares.loop]
    exact held
  · intro isOver some
    rw [spares.loop] at isOver
    exact (lost isOver some).imp spares.stays spares.nobody

/-- Nothing comes of an opening that crashes. -/
private theorem Reports.missing {source : Source}
    (reports : consumer.Reports isStopped polls put happenings)
    (unstarted : consumer.loop = .unstarted) (stoppedAfter : Bool) :
    Reports { consumer with source := source, loop := .missing } stoppedAfter polls put
      happenings := by
  obtain ⟨rfl, empty, nobody⟩ := reports.unopened unstarted
  obtain ⟨waiting, made, _, _⟩ := reports.made
  refine ⟨reports.lines, by simp, by simp, reports.arrived, waiting, made, ?_,
    fun _ _ => .inr nobody⟩
  intro isRunning
  cases isRunning

/-- An inbox is opened when nothing was polled yet. -/
private theorem Reports.opened {source : Source}
    (reports : consumer.Reports isStopped polls put happenings)
    (unstarted : consumer.loop = .unstarted) (stoppedAfter : Bool) :
    Reports { consumer with source := source, inbox := .ofBuffer consumer.buffer, loop := .polling }
      stoppedAfter polls put happenings := by
  obtain ⟨rfl, empty, _⟩ := reports.unopened unstarted
  obtain ⟨waiting, made, _, _⟩ := reports.made
  obtain ⟨rfl, nothing⟩ := List.append_eq_nil_iff.mp made.symm
  refine ⟨reports.lines, ?_, ?_, ?_, ⟨none, rfl, fun _ => rfl, fun _ some => by cases some⟩⟩
  · intro first fault rest shape
    simp at shape
  · intro unopened
    cases unopened
  · intro _
    have unreceived : consumer.received = [] := (List.append_eq_nil_iff.mp empty).1
    change consumer.received ++ [] = []
    rw [unreceived, List.append_nil]

/-- A poll adds its line, and the message of its record waits. -/
private theorem Reports.asked {polled : Polled} {told : List Happening}
    (reports : consumer.Reports isStopped polls put happenings)
    (asking : consumer.isAsking = true) (asked : consumer.Asked polled after told) :
    after.Reports stoppedAfter (polls ++ [polled]) put (happenings ++ told) := by
  obtain ⟨isRunning, holdsNothing⟩ := loop_of_asking asking
  obtain ⟨waiting, made, held, _⟩ := reports.made
  rw [held isRunning, holdsNothing, Option.toList_none, List.append_nil] at made
  refine ⟨?_, ?_, ?_, ?_, ⟨after.loop.held?, ?_, fun _ => rfl, ?_⟩⟩
  · rw [asked.topic, List.flatMap_append, ← reports.lines, asked.lines]
    simp
  · intro first fault rest shape
    cases rest with
    | nil =>
        obtain ⟨_, last⟩ := List.append_inj' shape rfl
        exact ⟨rfl, asked.failed fault (List.singleton_inj.mp last)⟩
    | cons next others =>
        -- A failed poll before this one would have ended the loop.
        have earlier : polls = first ++ .failed fault :: (next :: others).dropLast := by
          have shorter := congrArg List.dropLast shape
          rwa [List.dropLast_concat, List.dropLast_append_cons, List.dropLast_cons_cons] at shorter
        rw [(reports.failed first fault _ earlier).2] at isRunning
        cases isRunning
  · intro unstarted
    exact absurd unstarted asked.isOpened
  · intro there
    rw [asked.inbox.1] at there
    rw [asked.inbox.2]
    exact reports.arrived there
  · rw [asked.topic, asked.held, List.filterMap_append, List.filterMap_append, made]
    cases found : polled.record? with
    | none => simp [found]
    | some record => cases making : consumer.topic.makes? record <;> simp [found, making]
  · intro isOver some
    rw [asked.made isOver] at some
    cases some

/-- A loop whose poll goes on without a look adds nothing. -/
private theorem Reports.goOn {loop : PollLoop}
    (reports : consumer.Reports isStopped polls put happenings)
    (turns : consumer.Turns now broker loop) :
    Reports { consumer with loop := loop } stoppedAfter polls put happenings := by
  obtain ⟨isRunning, holdsNothing⟩ := turns.comesFrom
  obtain ⟨goesOn, stillNothing⟩ := turns.leadsTo
  obtain ⟨waiting, made, held, _⟩ := reports.made
  refine ⟨reports.lines, ?_, ?_, reports.arrived, ⟨waiting, made, ?_, ?_⟩⟩
  · intro first fault rest shape
    have isOver := (reports.failed first fault rest shape).2
    rw [isRunning] at isOver
    cases isOver
  · intro unstarted
    exact absurd unstarted (PollLoop.ne_unstarted_of_isRunning goesOn)
  · intro _
    rw [held isRunning, holdsNothing, stillNothing]
  · intro isOver
    rw [show PollLoop.isRunning _ = true from goesOn] at isOver
    cases isOver

private theorem Reports.ended (reports : consumer.Reports isStopped polls put happenings)
    (isRunning : consumer.loop.isRunning = true)
    (reason : consumer.loop.held?.isSome = true →
      stoppedAfter = true ∨ consumer.inbox.hasReceiver = false) :
    (consumer.endLoop .ended).Reports stoppedAfter polls put happenings := by
  obtain ⟨waiting, made, held, _⟩ := reports.made
  refine ⟨reports.lines, ?_, ?_, reports.arrived, ⟨waiting, made, ?_, ?_⟩⟩
  · intro first fault rest shape
    exact ⟨(reports.failed first fault rest shape).1, rfl⟩
  · intro unstarted
    cases unstarted
  · intro running
    cases running
  · intro _ some
    rw [held isRunning] at some
    exact reason some

/-- The message that was held is in the inbox now. -/
private theorem Reports.handedOver {message : Message}
    (reports : consumer.Reports isStopped polls put happenings)
    (holds : consumer.loop = .holding message) (hasReceiver : consumer.inbox.hasReceiver = true) :
    Reports { consumer with loop := .polling, inbox := consumer.inbox.push message } stoppedAfter
      polls (put ++ [message]) happenings := by
  have running : consumer.loop.isRunning = true := by simp [holds, PollLoop.isRunning]
  obtain ⟨waiting, made, held, _⟩ := reports.made
  have kept : waiting = some message := by rw [held running, holds]; rfl
  rw [kept] at made
  refine ⟨reports.lines, ?_, ?_, ?_, ⟨none, ?_, fun _ => rfl, fun _ some => by cases some⟩⟩
  · intro first fault rest shape
    have isOver := (reports.failed first fault rest shape).2
    rw [running] at isOver
    cases isOver
  · intro unstarted
    cases unstarted
  · intro _
    rw [← reports.arrived hasReceiver, List.append_assoc]
    rfl
  · simpa using made

end Consumer

namespace System

variable {system : System} {n : Nat} {consumer : Consumer} {action : Action}

/-! ## Runs -/

/-- What the loop of a consumer sees when it looks into its source by an action, if it does. -/
def poll? (system : System) (n : Nat) : Action → Option Polled
  | .step (.pollLoop m) =>
      if m = n then system.consumers[n]?.bind fun consumer =>
        if consumer.isAsking && !system.isConsumerStopped consumer then
          some (consumer.source.poll system.broker).1
        else none
      else none
  | _ => none

/-- The message that the loop of a consumer puts into the inbox by an action, if it does. -/
def put? (system : System) (n : Nat) : Action → Option Message
  | .step (.pollLoop m) =>
      if m = n then system.consumers[n]?.bind fun consumer =>
        consumer.puts? (system.isConsumerStopped consumer)
      else none
  | _ => none

/-- What a consumer sees by all looks of its polls along a run. -/
def pollsOf (system : System) (n : Nat) (actions : List Action) : List Polled :=
  system.seenAlong (fun system => system.poll? n) actions

/-- The messages that the loop of a consumer puts into the inbox along a run. -/
def putBy (system : System) (n : Nat) (actions : List Action) : List Message :=
  system.seenAlong (fun system => system.put? n) actions

private theorem seen_of_silent (silent : action ≠ .step (.pollLoop n)) :
    system.poll? n action = none ∧ system.put? n action = none := by
  have different {m : Nat} (same : action = .step (.pollLoop m)) : m ≠ n := by
    rintro rfl
    exact silent same
  constructor
  · unfold poll?
    split
    · exact if_neg (different rfl)
    · rfl
  · unfold put?
    split
    · exact if_neg (different rfl)
    · rfl

private theorem seen_of_turn (there : system.consumers[n]? = some consumer) :
    system.poll? n (.step (.pollLoop n)) =
        (if consumer.isAsking && !system.isConsumerStopped consumer then
          some (consumer.source.poll system.broker).1
        else none) ∧
      system.put? n (.step (.pollLoop n)) = consumer.puts? (system.isConsumerStopped consumer) := by
  simp [poll?, put?, there]

/-- A loop that cannot move neither polls nor puts anything into the inbox. -/
private theorem seen_of_stuck (there : system.consumers[n]? = some consumer)
    (stuck :
      consumer.loopStep? system.now (system.isConsumerStopped consumer) system.broker = none) :
    system.poll? n (.step (.pollLoop n)) = none ∧ system.put? n (.step (.pollLoop n)) = none := by
  obtain ⟨polls, puts⟩ := seen_of_turn there
  rw [polls, puts]
  cases stopped : system.isConsumerStopped consumer with
  | true => exact ⟨by simp, by simp [Consumer.puts?]⟩
  | false =>
      rw [stopped] at stuck
      have silent := Consumer.not_asking_of_stuck stuck
      refine ⟨by simp [silent], ?_⟩
      unfold Consumer.puts?
      cases loop : consumer.loop with
      | holding message =>
          simp only [Consumer.loopStep?, loop] at stuck
          cases hasReceiver : consumer.inbox.hasReceiver <;>
            cases hasRoom : consumer.inbox.hasRoom <;>
            simp_all
      | unstarted | missing | polling | looking notices | waiting deadline notices | lookingAgain
      | ended | crashed => simp [PollLoop.held?]

variable {polls : List Polled} {put : List Message} {happenings told : List Happening}

/-- A step of the loop polls, hands a message over, or ends the loop. -/
private theorem reports_loopStep {after : Consumer} (there : system.consumers[n]? = some consumer)
    (reports : consumer.Reports (system.isConsumerStopped consumer) polls put happenings)
    (moved :
      consumer.LoopStep system.now (system.isConsumerStopped consumer) system.broker after told) :
    after.Reports (system.isConsumerStopped after)
      (polls ++ (system.poll? n (.step (.pollLoop n))).toList)
      (put ++ (system.put? n (.step (.pollLoop n))).toList) (happenings ++ told) := by
  obtain ⟨polled, puts⟩ := seen_of_turn there
  rw [polled, puts]
  cases moved with
  | ended reason isRunning =>
      have unpolled : (consumer.isAsking && !system.isConsumerStopped consumer) = false := by
        rcases reason with stopped | ⟨message, holding, _⟩
        · simp [stopped]
        · simp [Consumer.isAsking, holding]
      have unput : consumer.puts? (system.isConsumerStopped consumer) = none := by
        rcases reason with stopped | ⟨message, _, nobody⟩
        · simp [Consumer.puts?, stopped]
        · simp [Consumer.puts?, nobody]
      rw [unpolled, unput]
      simp only [Bool.false_eq_true, if_false, Option.toList_none, List.append_nil]
      apply reports.ended isRunning
      intro _
      rcases reason with stopped | ⟨_, _, nobody⟩
      · exact .inl stopped
      · exact .inr nobody
  | turned turns goesOn =>
      have unput : consumer.puts? (system.isConsumerStopped consumer) = none := by
        simp [Consumer.puts?, turns.comesFrom.2]
      rw [turns.not_isAsking, unput]
      simp only [Bool.false_and, Bool.false_eq_true, if_false, Option.toList_none, List.append_nil]
      exact reports.goOn turns
  | asked goesOn asking =>
      have holdsNothing := (Consumer.loop_of_asking asking).2
      have unput : consumer.puts? (system.isConsumerStopped consumer) = none := by
        simp [Consumer.puts?, holdsNothing]
      have asked := Consumer.look_asked consumer system.now system.broker
      rw [unput]
      simp only [asking, goesOn, Bool.not_false, Bool.and_self, if_true, Option.toList_some,
        Option.toList_none, List.append_nil]
      exact reports.asked asking asked
  | @put message holds hasReceiver hasRoom goesOn =>
      have unpolled : consumer.isAsking = false := by
        simp [Consumer.isAsking, holds]
      have hands : consumer.puts? (system.isConsumerStopped consumer) = some message := by
        simp [Consumer.puts?, goesOn, hasReceiver, hasRoom, holds, PollLoop.held?]
      rw [hands]
      simp only [unpolled, Bool.false_and, Bool.false_eq_true, if_false, Option.toList_none,
        Option.toList_some, List.append_nil]
      exact reports.handedOver holds hasReceiver

/-- The consumer with a number is one of the broker, and what it has done is accounted for. -/
def HasReported (system : System) (n : Nat) (polls : List Polled) (put : List Message)
    (happenings : List Happening) : Prop :=
  ∃ consumer, system.consumers[n]? = some consumer ∧ consumer.source.isMemory = true ∧
    consumer.Reports (system.isConsumerStopped consumer) polls put happenings

private theorem HasReported.next (reported : system.HasReported n polls put happenings)
    (action : Action) :
    (system.next action).HasReported n (polls ++ (system.poll? n action).toList)
      (put ++ (system.put? n action).toList)
      (happenings ++ happeningsOf (.consumer n) (system.act action).2.2) := by
  obtain ⟨consumer, there, memory, reports⟩ := reported
  obtain ⟨client, source⟩ := Source.isMemory_iff.mp memory
  obtain ⟨after, found, akin⟩ := consumer_next there action
  have isMemory : after.source.isMemory = true := akin.2.trans memory
  refine ⟨after, found, isMemory, ?_⟩
  have effect := system.act_effect action
  apply Consumer.Reports.later _ effect.isConsumerStopped
  rcases effect.consumer_frame there with ⟨moved, foundMoved, changed⟩ | ⟨same, silent, stuck⟩
  · obtain rfl : moved = after := Option.some.inj (foundMoved.symm.trans found)
    rcases changed.loop_cases source with
      ⟨rfl, stepped⟩ | ⟨unmoved, silent, spares | ⟨unstarted, moves⟩⟩
    · exact reports_loopStep there reports stepped
    · obtain ⟨unpolled, unput⟩ := seen_of_silent unmoved
      rw [unpolled, unput, silent]
      simpa using reports.spared spares
    · obtain ⟨unpolled, unput⟩ := seen_of_silent unmoved
      obtain ⟨source, rfl | rfl⟩ := moves
      · rw [unpolled, unput, silent]
        simpa using reports.missing unstarted _
      · rw [unpolled, unput, silent]
        simpa using reports.opened unstarted _
  · obtain rfl : consumer = after := Option.some.inj (same.symm.trans found)
    have unseen : system.poll? n action = none ∧ system.put? n action = none := by
      by_cases turn : action = .step (.pollLoop n)
      · subst turn
        exact seen_of_stuck there (stuck rfl)
      · exact seen_of_silent turn
    rw [unseen.1, unseen.2, silent]
    simpa using reports

theorem HasReported.after (reported : system.HasReported n polls put happenings)
    (actions : List Action) :
    (system.after actions).HasReported n (polls ++ system.pollsOf n actions)
      (put ++ system.putBy n actions)
      (happenings ++ happeningsOf (.consumer n) (system.events actions)) := by
  induction actions generalizing system polls put happenings with
  | nil => simpa [pollsOf, putBy, seenAlong] using reported
  | cons action rest inductionHypothesis =>
      have later := inductionHypothesis (reported.next action)
      rw [after_cons, pollsOf, putBy, seenAlong, seenAlong, events_cons, happeningsOf_append]
      simpa [pollsOf, putBy] using later

/-- Whatever can be observed of a consumer along a run belongs to one of its polls, all of which
can be observed. -/
theorem polled_of_event {actions : List Action} {happening : Happening}
    (event : ⟨.consumer n, happening⟩ ∈ system.events actions)
    (there : (system.after actions).consumers[n]? = some consumer) :
    ∃ polled, happening ∈ consumer.topic.linesOf polled ∧
      ∀ line ∈ consumer.topic.linesOf polled, ⟨.consumer n, line⟩ ∈ system.events actions := by
  induction actions generalizing system with
  | nil => cases event
  | cons action rest inductionHypothesis =>
      rw [events_cons] at event ⊢
      rcases List.mem_append.mp event with now | later
      · have effect := system.act_effect action
        have done := mem_happeningsOf_iff.mpr now
        cases before : system.consumers[n]? with
        | none =>
            rw [effect.consumer_silent before] at done
            cases done
        | some old =>
            rcases effect.consumer_frame before with ⟨moved, found, changed⟩ | ⟨_, silent, _⟩
            · obtain ⟨after, thereAfter, akin⟩ := consumer_after before (action :: rest)
              obtain rfl : after = consumer := Option.some.inj (thereAfter.symm.trans there)
              obtain ⟨polled, lines⟩ := changed.lines done
              rw [← akin.1] at lines
              refine ⟨polled, lines ▸ done, fun line member => List.mem_append_left _ ?_⟩
              rw [← lines] at member
              exact mem_happeningsOf_iff.mp member
            · rw [silent] at done
              cases done
      · obtain ⟨polled, member, told⟩ := inductionHypothesis later there
        exact ⟨polled, member, fun line member => List.mem_append_right _ (told line member)⟩

end System

end TopicBus
