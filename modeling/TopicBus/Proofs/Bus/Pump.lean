import TopicBus.Bus.Publisher

/-!
# Steps of the tasks of a publisher

A step of the pump takes one message and publishes it, hands over the report of the last one, or
brings the pump nearer to its end: first the outbox takes nothing more, then it is empty, and
then the sink is flushed. A step of the drain touches nothing but the reports, and a step of a
close brings the close nearer to its result.
-/

namespace TopicBus

namespace Publisher

/-- What comes of publishing a message: what the publisher does, the publisher and the broker
afterwards. -/
inductive Published (publisher : Publisher) (now : Nat) (emptying : Bool) (broker : Broker)
    (message : Message) : List Happening → Publisher → Broker → Prop
  /-- The message has no wire form, and it is left out. -/
  | unencodable {flaw : Flaw} (encoding : message.value.encode = .error flaw) :
      Published publisher now emptying broker message [.noted (.unencodable publisher.topic.name)]
        (publisher.proceed emptying) broker
  | refused {payload : Text.Bytes} {fault : Fault} {sink : Sink} {stored : Broker}
      (encoding : message.value.encode = .ok payload)
      (enqueued : publisher.sink.enqueue now broker (publisher.outbound message payload) =
        (.refused fault, sink, stored)) :
      Published publisher now emptying broker message
        (appendedBy broker stored ++ [.noted (.refused publisher.topic.name fault)])
        ({ publisher with sink := sink }.proceed emptying) stored
  | crashed {payload : Text.Bytes} {sink : Sink} {stored : Broker}
      (encoding : message.value.encode = .ok payload)
      (enqueued : publisher.sink.enqueue now broker (publisher.outbound message payload) =
        (.crashed, sink, stored)) :
      Published publisher now emptying broker message (appendedBy broker stored)
        { publisher with sink := sink }.losePump stored
  | taken {payload : Text.Bytes} {report : Report} {sink : Sink} {stored : Broker}
      (encoding : message.value.encode = .ok payload)
      (enqueued : publisher.sink.enqueue now broker (publisher.outbound message payload) =
        (.taken report, sink, stored)) :
      Published publisher now emptying broker message (appendedBy broker stored)
        { publisher with sink := sink, pump := .handing report emptying } stored

/-- What a step of a pump can be. -/
inductive PumpStep (publisher : Publisher) (now : Nat) (cancelled : Bool) (broker : Broker) :
    List Happening → Publisher → Broker → Prop
  | stopped (receiving : publisher.pump = .receiving) :
      PumpStep publisher now cancelled broker [] publisher.stopReceiving broker
  | published {message : Message} {rest : List Message} (emptying : Bool)
      {happenings : List Happening} {after : Publisher} {brokerAfter : Broker}
      (between : publisher.pump = betweenMessages emptying)
      (shape : publisher.outbox.queue = message :: rest)
      (publishing : Published { publisher with outbox := { publisher.outbox with queue := rest } }
        now emptying broker message happenings after brokerAfter) :
      PumpStep publisher now cancelled broker happenings after brokerAfter
  /-- The report of a record was handed over, or it was given up with a note. -/
  | handed {report : Report} {emptying : Bool} (reports : Channel Report) (notes : List Note)
      (handing : publisher.pump = .handing report emptying) :
      PumpStep publisher now cancelled broker (notes.map .noted)
        ({ publisher with reports := reports }.proceed emptying) broker
  | emptied (emptying : publisher.pump = .emptying) (empty : publisher.outbox.queue = []) :
      PumpStep publisher now cancelled broker [] (publisher.finishPump now) broker
  /-- A hanging flush has come to its end. -/
  | flushed {deadline : Nat} {released : Bool} {result : Except Fault Unit} (notes : List Note)
      (flushing : publisher.pump = .flushing deadline released) :
      PumpStep publisher now cancelled broker (notes.map .noted)
        { publisher with pump := .finished result } broker

variable {publisher after : Publisher} {now : Nat} {cancelled : Bool} {broker brokerAfter : Broker}
  {happenings : List Happening}

theorem publish_published {emptying : Bool} {message : Message}
    (published :
      publisher.publish now emptying broker message = (after, brokerAfter, happenings)) :
    publisher.Published now emptying broker message happenings after brokerAfter := by
  unfold publish at published
  split at published
  · rename_i encoding
    cases published
    exact .unencodable encoding
  · rename_i payload encoding
    cases enqueuing : publisher.sink.enqueue now broker (publisher.outbound message payload) with
    | mk enqueued rest =>
        obtain ⟨sink, stored⟩ := rest
        simp only [enqueuing] at published
        cases enqueued with
        | taken report =>
            cases published
            exact .taken encoding enqueuing
        | refused fault =>
            cases published
            exact .refused encoding enqueuing
        | crashed =>
            cases published
            exact .crashed encoding enqueuing

private theorem handReport?_handed {emptying : Bool} {report : Report}
    (handed : publisher.handReport? cancelled emptying report = some (after, happenings)) :
    ∃ reports notes, after = { publisher with reports := reports }.proceed emptying ∧
      happenings = List.map .noted notes := by
  unfold handReport? at handed
  split at handed
  · cases handed
    exact ⟨publisher.reports, [.drainGone publisher.topic.name], rfl, rfl⟩
  · split at handed
    · cases handed
      exact ⟨publisher.reports.push report, [], rfl, rfl⟩
    · split at handed
      · cases handed
        exact ⟨publisher.reports, [.reportDropped publisher.topic.name], rfl, rfl⟩
      · cases handed

/-- The pump moves by such a step. -/
theorem pumpStep?_step
    (moved : publisher.pumpStep? now cancelled broker = some (after, brokerAfter, happenings)) :
    publisher.PumpStep now cancelled broker happenings after brokerAfter := by
  unfold pumpStep? at moved
  split at moved
  · rename_i receiving
    split at moved
    · cases moved
      exact .stopped receiving
    · split at moved
      · rename_i popped
        obtain ⟨rest, shape, rfl⟩ := Channel.pop?_eq_some_iff.mp popped
        exact .published false receiving shape
          (publish_published (Option.some.inj moved))
      · split at moved
        · cases moved
        · cases moved
          exact .stopped receiving
  · rename_i report emptying handing
    obtain ⟨⟨handed, notes⟩, handingOver, same⟩ := Option.map_eq_some_iff.mp moved
    cases same
    obtain ⟨reports, notes, rfl, rfl⟩ := handReport?_handed handingOver
    exact .handed reports notes handing
  · rename_i emptying
    split at moved
    · rename_i popped
      obtain ⟨rest, shape, rfl⟩ := Channel.pop?_eq_some_iff.mp popped
      exact .published true emptying shape
        (publish_published (Option.some.inj moved))
    · rename_i unpopped
      cases moved
      exact .emptied emptying (Channel.pop?_eq_none_iff.mp unpopped)
  · rename_i deadline released flushing
    split at moved
    · cases moved
      exact .flushed [] flushing
    · split at moved
      · cases moved
        exact .flushed [.flushOverdue publisher.flushTimeout] flushing
      · cases moved
  · cases moved
  · cases moved
  · cases moved
  · cases moved

/-! ## The drain -/

/-- A step of the drain changes the reports and leaves notes at most. -/
theorem drainStep?_reports (moved : publisher.drainStep? now = some (after, happenings)) :
    ∃ reports drain notes, after = { publisher with reports := reports, drain := drain } ∧
      happenings = List.map .noted notes := by
  unfold drainStep? at moved
  split at moved
  · split at moved
    · rename_i awaited _ report reports _
      cases report with
      | delivered =>
          cases moved
          exact ⟨_, _, [], rfl, rfl⟩
      | failed fault =>
          cases moved
          exact ⟨_, _, [.undelivered publisher.topic.name fault], rfl, rfl⟩
      | late due fault =>
          cases moved
          exact ⟨_, _, [], rfl, rfl⟩
      | crash =>
          cases moved
          exact ⟨_, _, [], rfl, rfl⟩
      | never =>
          cases moved
          exact ⟨_, _, [], rfl, rfl⟩
    · split at moved
      · rename_i fault others _
        cases moved
        exact ⟨_, _, [.undelivered publisher.topic.name fault], rfl, rfl⟩
      · split at moved
        · cases moved
          exact ⟨_, _, [], rfl, rfl⟩
        · cases moved
  · cases moved
  · cases moved
  · cases moved

/-! ## The close -/

/-- What a step of a close can be. -/
inductive CloseStep (publisher : Publisher) : List Happening → Publisher → Prop
  /-- The flush of a publisher that was never opened takes too long. -/
  | flushOverdue {deadline : Nat} {fault : Fault} (notes : List Note)
      (flushing : publisher.closing = .flushing deadline) :
      CloseStep publisher (notes.map .noted)
        { publisher with closing := .done (.error fault) }
  | pumpFinished {deadline : Nat} {result : Except Fault Unit}
      (awaiting : publisher.closing = .awaitingTask deadline)
      (finished : publisher.pump = .finished result) :
      CloseStep publisher [] { publisher with closing := .awaitingReports deadline result }
  | pumpGone {deadline : Nat} {fault : Fault}
      (awaiting : publisher.closing = .awaitingTask deadline) (gone : publisher.pump = .gone) :
      CloseStep publisher [] { publisher with closing := .done (.error fault) }
  /-- The pump takes too long and is given up. -/
  | pumpOverdue {deadline : Nat} {fault : Fault} (notes : List Note)
      (awaiting : publisher.closing = .awaitingTask deadline) :
      CloseStep publisher (notes.map .noted)
        { publisher.losePump.loseDrain with closing := .done (.error fault) }
  /-- The reports are in, lost or given up. -/
  | settled {deadline : Nat} {flushed result : Except Fault Unit} {reports : Channel Report}
      {drain : Drain} (notes : List Note)
      (awaiting : publisher.closing = .awaitingReports deadline flushed) :
      CloseStep publisher (notes.map .noted)
        { publisher with reports := reports, drain := drain, closing := .done result }

theorem closeStep?_step (moved : publisher.closeStep? now = some (after, happenings)) :
    publisher.CloseStep happenings after := by
  unfold closeStep? at moved
  split at moved
  · rename_i flushing
    split at moved
    · cases moved
      exact .flushOverdue [.flushOverdue publisher.flushTimeout] flushing
    · cases moved
  · rename_i awaiting
    split at moved
    · rename_i finished
      cases moved
      exact .pumpFinished awaiting finished
    · rename_i gone
      cases moved
      exact .pumpGone awaiting gone
    · split at moved
      · cases moved
        exact .pumpOverdue [.publisherOverdue publisher.topic.name publisher.flushTimeout] awaiting
      · cases moved
  · rename_i awaiting
    split at moved
    · cases moved
      exact .settled [] awaiting
    · cases moved
      exact .settled [] awaiting
    · split at moved
      · cases moved
        exact .settled [.reportsPending publisher.topic.name publisher.flushTimeout] awaiting
      · cases moved
  · cases moved
  · cases moved

end Publisher

end TopicBus
