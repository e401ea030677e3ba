import TopicBus.Proofs.Bus.Origins

/-!
# What a publisher stores

A publisher over the broker inside the process stores a record for every message that its pump
takes from the outbox and that can be encoded. On the way a message is in the outbox or it was
taken by the pump, before the stop as after it; nothing is in neither place or in both. A close
succeeds only when the pump has come to its end.
-/

namespace TopicBus

/-! ## What goes in and what comes out -/

namespace System

/-- The entries that a publisher stores along a run. -/
def storedBy (system : System) (n : Nat) (actions : List Action) : List Entry :=
  entriesOf (happeningsOf (.publisher n) (system.events actions))

theorem storedBy_cons (system : System) (n : Nat) (action : Action) (rest : List Action) :
    system.storedBy n (action :: rest) =
      entriesOf (happeningsOf (.publisher n) (system.act action).2.2) ++
        (system.next action).storedBy n rest := by
  simp only [storedBy, events_cons, happeningsOf_append, entriesOf_append]

end System

/-! ## The pump and the outbox -/

namespace Pump

/-- Whether a pump has stopped taking messages from the application. -/
def isStopping : Pump → Bool
  | .handing _ isLast => isLast
  | .missing | .emptying | .flushing _ _ | .finished _ => true
  | .unstarted | .receiving | .gone => false

/-- Whether a pump has handed over all its messages, or has never got any. -/
def isThrough : Pump → Bool
  | .missing | .flushing _ _ | .finished _ => true
  | _ => false

/-- Whether a pump does nothing any more. -/
def isOver : Pump → Bool
  | .missing | .finished _ | .gone => true
  | _ => false

/-- Whether a pump is lost. -/
def isGone : Pump → Bool
  | .gone => true
  | _ => false

theorem not_isGone_of_isThrough {pump : Pump} (through : pump.isThrough = true) :
    pump.isGone = false := by
  cases pump with
  | gone => cases through
  | _ => rfl

end Pump

namespace Publisher

/-- What was accepted was taken by the pump and stored, or it is in the outbox, as long as the
pump is there. -/
structure Carries (topic : Topic) (publisher : Publisher) (accepted : List Message)
    (stored : List (String × Stored)) : Prop where
  sameTopic : publisher.topic = topic
  memory : publisher.sink = .memory
  conserved : publisher.pump.isGone = false →
    ∃ taken, accepted = taken ++ publisher.outbox.queue ∧ stored = taken.filterMap topic.stored?
  idle : publisher.hasTasks = false →
    publisher.outbox.queue = [] ∧ publisher.outbox.hasReceiver = false ∧
      publisher.outbox.reserved = 0
  stopping : publisher.pump.isStopping = true → publisher.outbox.hasReceiver = false

variable {topic : Topic} {publisher after : Publisher} {accepted : List Message}
  {stored : List (String × Stored)} {now : Nat} {cancelled : Bool} {broker brokerAfter : Broker}
  {happenings : List Happening}

theorem carries_create (topic : Topic) (settings : Settings.Producer) (scope : String) :
    (create topic .memory settings scope).Carries topic [] [] where
  sameTopic := rfl
  memory := rfl
  conserved _ := ⟨[], rfl, rfl⟩
  idle _ := ⟨rfl, rfl, rfl⟩
  stopping isStopping := by cases isStopping

private theorem Carries.same (carries : publisher.Carries topic accepted stored)
    (sameTopic : after.topic = publisher.topic) (memory : after.sink = publisher.sink)
    (pump : after.pump = publisher.pump) (queue : after.outbox.queue = publisher.outbox.queue)
    (hasReceiver : after.outbox.hasReceiver = publisher.outbox.hasReceiver)
    (reserved : after.outbox.reserved = publisher.outbox.reserved) :
    after.Carries topic accepted stored := by
  have started : after.hasTasks = publisher.hasTasks := by
    unfold hasTasks
    rw [pump]
  refine ⟨sameTopic.trans carries.sameTopic, memory.trans carries.memory, ?_, ?_, ?_⟩
  · rw [pump, queue]
    exact carries.conserved
  · rw [started, queue, hasReceiver, reserved]
    exact carries.idle
  · rw [pump, hasReceiver]
    exact carries.stopping

/-- A publisher that has lost its pump makes no promise. -/
private theorem Carries.lost (carries : publisher.Carries topic accepted stored)
    (sameTopic : after.topic = publisher.topic) (memory : after.sink = publisher.sink)
    (gone : after.pump = .gone) (accepted : List Message) (stored : List (String × Stored)) :
    after.Carries topic accepted stored := by
  refine ⟨sameTopic.trans carries.sameTopic, memory.trans carries.memory, ?_, ?_, ?_⟩
  · rw [gone]
    intro there
    cases there
  · unfold hasTasks
    rw [gone]
    intro idle
    cases idle
  · rw [gone]
    intro isStopping
    cases isStopping

/-! ## Single steps -/

private theorem Carries.opens {result : Option (Except Fault Nat)}
    (carries : publisher.Carries topic accepted stored) (opens : publisher.Opens result after) :
    after.Carries topic accepted stored := by
  cases opens with
  | again isOpened => exact carries
  | crashed unstarted tooLarge =>
      have idle := carries.idle (by rw [hasTasks, unstarted])
      exact ⟨carries.sameTopic, carries.memory,
        fun _ => carries.conserved (by rw [unstarted]; rfl), fun _ => idle, fun _ => idle.2.1⟩
  | started unstarted fits =>
      obtain ⟨empty, _⟩ := carries.idle (by rw [hasTasks, unstarted])
      obtain ⟨taken, conserved, put⟩ := carries.conserved (by rw [unstarted]; rfl)
      rw [empty] at conserved
      refine ⟨carries.sameTopic, carries.memory, fun _ => ⟨taken, conserved, put⟩, ?_, ?_⟩
      · intro idle
        cases idle
      · intro isStopping
        cases isStopping

private theorem Carries.send {message : Message} {outbox : Channel Message}
    (carries : publisher.Carries topic accepted stored)
    (sent : publisher.outbox.send message = (.accepted, outbox)) :
    Carries topic { publisher with outbox := outbox } (accepted ++ [message]) stored := by
  obtain ⟨hasReceiver, _, rfl⟩ := Channel.send_accepted_iff.mp sent
  have unstopped {P : Prop} (closed : publisher.outbox.hasReceiver = false) : P := by
    rw [closed] at hasReceiver
    cases hasReceiver
  refine ⟨carries.sameTopic, carries.memory, ?_, ?_, ?_⟩
  · intro there
    obtain ⟨taken, conserved, put⟩ := carries.conserved there
    refine ⟨taken, ?_, put⟩
    simp [conserved, Channel.push]
  · intro idle
    exact unstopped (carries.idle idle).2.1
  · intro isStopping
    exact unstopped (carries.stopping isStopping)

private theorem Carries.reserve {outbox : Channel Message}
    (carries : publisher.Carries topic accepted stored)
    (given : publisher.outbox.reserve = (.accepted, outbox)) :
    Carries topic { publisher with outbox := outbox } accepted stored := by
  obtain ⟨hasReceiver, _, rfl⟩ := Channel.reserve_accepted_iff.mp given
  refine ⟨carries.sameTopic, carries.memory, carries.conserved, ?_, carries.stopping⟩
  intro idle
  rw [(carries.idle idle).2.1] at hasReceiver
  cases hasReceiver

/-- A held place is filled whether anybody receives or not. -/
private theorem Carries.fill (carries : publisher.Carries topic accepted stored)
    (placed : 0 < publisher.outbox.reserved) (message : Message) :
    (publisher.fill message).Carries topic (accepted ++ [message]) stored := by
  refine ⟨carries.sameTopic, carries.memory, ?_, ?_, carries.stopping⟩
  · intro there
    obtain ⟨taken, conserved, put⟩ := carries.conserved there
    refine ⟨taken, ?_, put⟩
    simp [conserved, Publisher.fill, Channel.fill, Channel.push]
  · intro idle
    rw [(carries.idle idle).2.2] at placed
    cases placed

private theorem Carries.flush (carries : publisher.Carries topic accepted stored) :
    publisher.sink.flush publisher.flushTimeout = (.finished (.ok ()), .memory) := by
  rw [carries.memory]
  rfl

private theorem Carries.beginClose (carries : publisher.Carries topic accepted stored) :
    (publisher.beginClose now).Carries topic accepted stored := by
  unfold Publisher.beginClose
  split
  · dsimp only
    split
    · exact carries.same rfl rfl rfl rfl rfl rfl
    · rw [carries.flush]
      exact carries.same rfl carries.memory.symm rfl rfl rfl rfl
  · exact carries

/-- A message that the pump has taken is stored, if it can be encoded, and the pump goes on. -/
private theorem Carries.publish {message : Message} {rest : List Message} {emptying : Bool}
    (carries : publisher.Carries topic accepted stored)
    (between : publisher.pump = betweenMessages emptying)
    (shape : publisher.outbox.queue = message :: rest)
    (published : Published { publisher with outbox := { publisher.outbox with queue := rest } } now
      emptying broker message happenings after brokerAfter) :
    after.Carries topic accepted (stored ++ (entriesOf happenings).map Entry.stored) := by
  obtain ⟨taken, conserved, put⟩ := carries.conserved (by
    rw [between]
    cases emptying <;> rfl)
  have next : accepted = (taken ++ [message]) ++ rest := by
    simp [conserved, shape]
  have stopped (isStopping : emptying = true) : publisher.outbox.hasReceiver = false := by
    refine carries.stopping ?_
    rw [between, isStopping]
    rfl
  obtain rfl := carries.sameTopic
  cases published with
  | unencodable encoding =>
      refine ⟨rfl, carries.memory, fun _ => ⟨taken ++ [message], next, ?_⟩, ?_, ?_⟩
      · simp [put, Topic.stored?, encoding, entriesOf, Happening.entry?]
      · intro unopened
        cases emptying <;> cases unopened
      · intro isStopping
        cases emptying with
        | false => cases isStopping
        | true => exact stopped rfl
  | refused encoding enqueued =>
      simp only [carries.memory, Sink.enqueue] at enqueued
      cases enqueued
  | crashed encoding enqueued =>
      simp only [carries.memory, Sink.enqueue] at enqueued
      cases enqueued
  | @taken payload report sink broker encoding enqueued =>
      simp only [carries.memory, Sink.enqueue] at enqueued
      cases enqueued
      refine ⟨rfl, rfl, fun _ => ⟨taken ++ [message], next, ?_⟩, ?_, ?_⟩
      · simp [put, Topic.stored?, encoding, entriesOf, Happening.entry?, Entry.stored, outbound]
      · intro unopened
        cases unopened
      · intro isStopping
        exact stopped isStopping

private theorem Carries.pumpStep (carries : publisher.Carries topic accepted stored)
    (moved : publisher.PumpStep now cancelled broker happenings after brokerAfter) :
    after.Carries topic accepted (stored ++ (entriesOf happenings).map Entry.stored) := by
  cases moved with
  | stopped receiving =>
      obtain ⟨taken, conserved, put⟩ := carries.conserved (by rw [receiving]; rfl)
      refine ⟨carries.sameTopic, carries.memory, fun _ => ⟨taken, conserved, by simp [put]⟩, ?_,
        fun _ => rfl⟩
      intro unopened
      cases unopened
  | published emptying between shape publishing => exact carries.publish between shape publishing
  | @handed report emptying reports notes handing =>
      obtain ⟨taken, conserved, put⟩ := carries.conserved (by rw [handing]; rfl)
      refine ⟨carries.sameTopic, carries.memory, fun _ => ⟨taken, conserved, by simp [put]⟩, ?_, ?_⟩
      · intro unopened
        cases emptying <;> cases unopened
      · intro isStopping
        cases emptying with
        | false => cases isStopping
        | true => exact carries.stopping (by rw [handing]; rfl)
  | emptied emptying empty =>
      obtain ⟨taken, conserved, put⟩ := carries.conserved (by rw [emptying]; rfl)
      unfold finishPump
      rw [carries.flush]
      refine ⟨carries.sameTopic, rfl, fun _ => ⟨taken, conserved, by simp [put]⟩, ?_,
        fun _ => carries.stopping (by rw [emptying]; rfl)⟩
      intro unopened
      cases unopened
  | flushed notes flushing =>
      obtain ⟨taken, conserved, put⟩ := carries.conserved (by rw [flushing]; rfl)
      refine ⟨carries.sameTopic, carries.memory, fun _ => ⟨taken, conserved, by simp [put]⟩, ?_,
        fun _ => carries.stopping (by rw [flushing]; rfl)⟩
      intro unopened
      cases unopened

/-- A step of a close loses the pump, or it touches neither the pump nor the outbox. -/
private theorem Carries.closeStep (carries : publisher.Carries topic accepted stored)
    (moved : publisher.CloseStep happenings after) :
    after.Carries topic accepted stored := by
  cases moved with
  | flushOverdue notes flushing => exact carries.same rfl rfl rfl rfl rfl rfl
  | pumpFinished awaiting finished => exact carries.same rfl rfl rfl rfl rfl rfl
  | pumpGone awaiting gone => exact carries.same rfl rfl rfl rfl rfl rfl
  | pumpOverdue notes awaiting =>
      refine carries.lost ?_ ?_ ?_ accepted stored
      · rfl
      · rfl
      · rfl
  | settled notes awaiting => exact carries.same rfl rfl rfl rfl rfl rfl

theorem Changes.carries {system : System} {n : Nat} {action : Action} {reply : Reply}
    (changed : publisher.Changes system n action reply happenings after brokerAfter)
    (carries : publisher.Carries topic accepted stored) :
    after.Carries topic (accepted ++ (acceptedIn n action reply).toList)
      (stored ++ (entriesOf happenings).map Entry.stored) := by
  have still {after : Publisher} (carries : after.Carries topic accepted stored) :
      after.Carries topic (accepted ++ (none : Option Message).toList)
        (stored ++ (entriesOf []).map Entry.stored) := by
    simpa using carries
  cases changed with
  | opened opens => exact still (carries.opens opens)
  | @sent message outbox sameKind taken =>
      have silent : entriesOf [.accepted message] = [] := rfl
      rw [silent]
      simpa [acceptedIn] using carries.send taken
  | reserved given => exact still (carries.reserve given)
  | @filled message sameKind placed =>
      have silent : entriesOf [.accepted message] = [] := rfl
      rw [silent]
      simpa [acceptedIn] using carries.fill placed message
  | outboxDropped => exact still (carries.same rfl rfl rfl rfl rfl rfl)
  | closeBegun isHeld first => exact still carries.beginClose
  | dropped => exact still (carries.same rfl rfl rfl rfl rfl rfl)
  | callsTaken scripted =>
      rw [carries.memory] at scripted
      cases scripted
  | flushReleased =>
      refine still ?_
      unfold releaseFlush
      split
      · rename_i deadline released flushing
        obtain ⟨taken, conserved, put⟩ := carries.conserved (by rw [flushing]; rfl)
        refine ⟨carries.sameTopic, carries.memory, fun _ => ⟨taken, conserved, put⟩, ?_,
          fun _ => carries.stopping (by rw [flushing]; rfl)⟩
        intro unopened
        cases unopened
      · exact carries
  | pumped moved => simpa [acceptedIn] using carries.pumpStep (pumpStep?_step moved)
  | drained moved =>
      obtain ⟨reports, drain, notes, rfl, rfl⟩ := drainStep?_reports moved
      have drained : Carries topic { publisher with reports := reports, drain := drain } accepted
          stored := carries.same rfl rfl rfl rfl rfl rfl
      simpa [acceptedIn] using drained
  | closeStepped moved =>
      have step := closeStep?_step moved
      rw [step.entries]
      exact still (carries.closeStep step)

/-! ## The end of a close -/

/-- A publisher is opened, and a close of it has passed its pump only when the pump was through. -/
structure ClosesInOrder (publisher : Publisher) : Prop where
  isOpened : publisher.isOpened = true
  through : (∃ deadline flushed, publisher.closing = .awaitingReports deadline flushed) ∨
    publisher.closing = .done (.ok ()) → publisher.pump.isThrough = true

private theorem ClosesInOrder.same (inOrder : publisher.ClosesInOrder)
    (pump : after.pump = publisher.pump) (closing : after.closing = publisher.closing) :
    after.ClosesInOrder := by
  constructor
  · unfold Publisher.isOpened
    rw [pump]
    exact inOrder.isOpened
  · rw [pump, closing]
    exact inOrder.through

theorem PumpStep.isOpened
    (moved : publisher.PumpStep now cancelled broker happenings after brokerAfter) :
    after.isOpened = true := by
  cases moved with
  | stopped receiving => rfl
  | published emptying between shape publishing =>
      cases publishing with
      | unencodable encoding => cases emptying <;> rfl
      | refused encoding enqueued => cases emptying <;> rfl
      | crashed encoding enqueued => rfl
      | taken encoding enqueued => rfl
  | @handed report emptying reports notes handing => cases emptying <;> rfl
  | emptied emptying empty =>
      unfold finishPump Publisher.isOpened
      dsimp only
      split
      · rename_i unstarted
        split at unstarted
        · cases unstarted
        · cases unstarted
      · rfl
  | flushed notes flushing => rfl

theorem PumpStep.closing_eq
    (moved : publisher.PumpStep now cancelled broker happenings after brokerAfter) :
    after.closing = publisher.closing := by
  cases moved with
  | published emptying between shape publishing => cases publishing <;> rfl
  | stopped receiving => rfl
  | handed reports notes handing => rfl
  | emptied emptying empty => rfl
  | flushed notes flushing => rfl

/-- A pump that moves is not over. -/
theorem PumpStep.isOver_eq_false
    (moved : publisher.PumpStep now cancelled broker happenings after brokerAfter) :
    publisher.pump.isOver = false := by
  cases moved with
  | stopped receiving =>
      rw [receiving]
      rfl
  | published emptying between shape publishing =>
      rw [between]
      cases emptying <;> rfl
  | handed reports notes handing =>
      rw [handing]
      rfl
  | emptied emptying empty =>
      rw [emptying]
      rfl
  | flushed notes flushing =>
      rw [flushing]
      rfl

/-- A pump that is through is done with its messages for good. -/
private theorem PumpStep.isThrough
    (moved : publisher.PumpStep now cancelled broker happenings after brokerAfter)
    (through : publisher.pump.isThrough = true) : after.pump.isThrough = true := by
  cases moved with
  | stopped receiving =>
      rw [receiving] at through
      cases through
  | published emptying between shape publishing =>
      rw [between] at through
      cases emptying <;> cases through
  | handed reports notes handing =>
      rw [handing] at through
      cases through
  | emptied emptying empty =>
      rw [emptying] at through
      cases through
  | flushed notes flushing => rfl

private theorem ClosesInOrder.pumpStep (inOrder : publisher.ClosesInOrder)
    (moved : publisher.PumpStep now cancelled broker happenings after brokerAfter) :
    after.ClosesInOrder := by
  refine ⟨moved.isOpened, ?_⟩
  rw [moved.closing_eq]
  exact fun passed => moved.isThrough (inOrder.through passed)

/-- A step of a close passes the pump only when that is finished. -/
private theorem ClosesInOrder.closeStep (inOrder : publisher.ClosesInOrder)
    (moved : publisher.CloseStep happenings after) : after.ClosesInOrder := by
  cases moved with
  | flushOverdue notes flushing => exact ⟨inOrder.isOpened, by simp⟩
  | pumpFinished awaiting finished =>
      refine ⟨inOrder.isOpened, fun _ => ?_⟩
      rw [finished]
      rfl
  | pumpGone awaiting gone => exact ⟨inOrder.isOpened, by simp⟩
  | pumpOverdue notes awaiting => exact ⟨rfl, by simp⟩
  | settled notes awaiting =>
      exact ⟨inOrder.isOpened, fun _ => inOrder.through (.inl ⟨_, _, awaiting⟩)⟩

/-- A close that begins waits for the tasks; if there are none, no message was ever taken. -/
private theorem ClosesInOrder.beginClose (inOrder : publisher.ClosesInOrder)
    (first : publisher.closing = .notYet) (now : Nat) :
    (publisher.beginClose now).ClosesInOrder := by
  by_cases hasTasks : publisher.hasTasks = true
  · rw [beginClose_of_hasTasks hasTasks first]
    exact ⟨inOrder.isOpened, by simp⟩
  · have missing := pump_of_isOpened inOrder.isOpened hasTasks
    obtain ⟨sink, stopped, closing, begun⟩ := publisher.beginClose_spares now
    rw [begun]
    refine ⟨inOrder.isOpened, fun _ => ?_⟩
    rw [missing]
    rfl

/-- Whatever is done to an opened publisher, its close keeps its order. -/
theorem Changes.closesInOrder {system : System} {n : Nat} {action : Action} {reply : Reply}
    (changed : publisher.Changes system n action reply happenings after brokerAfter)
    (inOrder : publisher.ClosesInOrder) : after.ClosesInOrder := by
  cases changed with
  | opened opens =>
      rw [opens.eq_of_isOpened inOrder.isOpened]
      exact inOrder
  | sent sameKind taken | reserved given | filled sameKind placed | outboxDropped =>
      exact inOrder.same rfl rfl
  | closeBegun isHeld first => exact inOrder.beginClose first system.now
  | dropped => exact inOrder.same rfl rfl
  | callsTaken scripted => exact inOrder.same rfl rfl
  | flushReleased =>
      unfold releaseFlush
      split
      · rename_i deadline released flushing
        exact ⟨rfl, fun _ => rfl⟩
      · exact inOrder
  | pumped moved => exact inOrder.pumpStep (pumpStep?_step moved)
  | drained moved =>
      obtain ⟨reports, drain, notes, rfl, _⟩ := drainStep?_reports moved
      exact inOrder.same rfl rfl
  | closeStepped moved => exact inOrder.closeStep (closeStep?_step moved)

end Publisher

/-! ## Runs -/

namespace System

variable {system : System} {n : Nat} {topic : Topic}

/-- What every change of a publisher keeps is kept along any run. -/
theorem publisher_after_of_changes {Kept : Publisher → Prop}
    (kept : ∀ {system : System} {publisher after : Publisher} {action : Action} {reply : Reply}
      {happenings : List Happening} {broker : Broker},
      publisher.Changes system n action reply happenings after broker → Kept publisher → Kept after)
    {publisher : Publisher} (there : system.publishers[n]? = some publisher)
    (begun : Kept publisher) (actions : List Action) :
    ∃ after, (system.after actions).publishers[n]? = some after ∧ Kept after := by
  apply after_of_next fun later => ∃ after, later.publishers[n]? = some after ∧ Kept after
  · rintro later action ⟨before, found, holds⟩
    rcases (later.act_effect action).publisher_frame found with
      ⟨moved, thereAfter, changed⟩ | ⟨thereAfter, _, _⟩
    · exact ⟨moved, thereAfter, kept changed holds⟩
    · exact ⟨before, thereAfter, holds⟩
  · exact ⟨publisher, there, begun⟩

/-- Along any run an opened publisher keeps the order of its close. -/
theorem closesInOrder_after {publisher : Publisher} (there : system.publishers[n]? = some publisher)
    (inOrder : publisher.ClosesInOrder) (actions : List Action) :
    ∃ after, (system.after actions).publishers[n]? = some after ∧ after.ClosesInOrder :=
  publisher_after_of_changes (fun changed => changed.closesInOrder) there inOrder actions

/-- A new publisher over the broker stands behind all others. -/
theorem addPublisher_memory {kind : Payload.Kind} {options : Mapping} {scope : String}
    {settings : Settings.Producer} (resolved : Settings.Producer.resolve options = .ok settings)
    (bound : system.registry.topic kind = .ok topic) :
    (system.next (.addPublisher kind (.memory options) scope)).publishers[
        system.publishers.length]? =
      some (.create topic .memory settings scope) := by
  have making : Publisher.ofOutlet system.registry kind (.memory options) scope =
      .ok (.create topic .memory settings scope) := by
    simp only [Publisher.ofOutlet, Outlet.resolve, resolved, bound]
    rfl
  simp [next, act, addPublisher, making]

theorem storedBy_sublist (system : System) (n : Nat) (actions : List Action) :
    (system.storedBy n actions).Sublist (storedIn (system.events actions)) := by
  refine List.Sublist.filterMap _ ?_
  induction system.events actions with
  | nil => exact .slnil
  | cons event rest inductionHypothesis =>
      obtain ⟨author, happening⟩ := event
      by_cases same : author = .publisher n
      · subst same
        rw [happeningsOf_cons_self]
        exact inductionHypothesis.cons_cons happening
      · rw [happeningsOf_cons_of_ne same]
        exact inductionHypothesis.cons happening

end System

end TopicBus
