import TopicBus.Proofs.Publishing

/-!
# What becomes of the messages that a pump takes

The pump of a publisher over the broker inside the process takes the messages of its outbox one
by one. Each of them is stored, or an error line says that it was left out; both can be
observed, in the order of the messages. There is no other error line, but for the one that gives
up a close that takes too long, and with it the pump.
-/

namespace TopicBus

/-! ## Fates -/

/-- What becomes of a message, as it can be observed. -/
inductive Fate
  | stored (topic : String) (record : Stored)
  /-- An error line was left for the operator. -/
  | blamed (note : Note)
  deriving DecidableEq, Repr

/-- The topic and the record that a message was stored as, if that was its fate. -/
def Fate.stored? : Fate → Option (String × Stored)
  | .stored topic record => some (topic, record)
  | .blamed _ => none

/-- The fate that a happening tells of: a record that was stored, or an error line. -/
def Happening.fate? : Happening → Option Fate
  | .appended topic _ record => some (.stored topic record)
  | .noted note => if note.level = .error then some (.blamed note) else none
  | .accepted _ | .fetched _ => none

def fatesOf (happenings : List Happening) : List Fate :=
  happenings.filterMap Happening.fate?

@[simp]
theorem fatesOf_nil : fatesOf [] = [] :=
  rfl

@[simp]
theorem fatesOf_append (first second : List Happening) :
    fatesOf (first ++ second) = fatesOf first ++ fatesOf second :=
  List.filterMap_append

private theorem Happening.entry?_stored (happening : Happening) :
    happening.entry?.map Entry.stored = happening.fate?.bind Fate.stored? := by
  cases happening with
  | accepted message => rfl
  | appended topic offset record => rfl
  | fetched record => rfl
  | noted note =>
      by_cases serious : note.level = .error <;> simp [fate?, entry?, Fate.stored?, serious]

/-- What was stored can be told from the fates. -/
theorem entriesOf_stored (happenings : List Happening) :
    (entriesOf happenings).map Entry.stored = (fatesOf happenings).filterMap Fate.stored? := by
  rw [entriesOf, fatesOf, List.map_filterMap, List.filterMap_filterMap]
  congr 1
  funext happening
  exact happening.entry?_stored

/-- The fate of a message on a topic: it is stored, or it cannot be encoded and the line says so. -/
def Topic.fate (topic : Topic) (message : Message) : Fate :=
  match topic.stored? message with
  | some (name, record) => .stored name record
  | none => .blamed (.unencodable topic.name)

theorem Topic.fate_stored? (topic : Topic) (message : Message) :
    (topic.fate message).stored? = topic.stored? message := by
  unfold fate
  cases topic.stored? message <;> rfl

namespace Publisher

/-! ## Taking messages -/

/-- The message that the next step of the pump takes. -/
def upcoming? (publisher : Publisher) (cancelled : Bool) : Option Message :=
  match publisher.pump with
  | .receiving => if cancelled then none else publisher.outbox.queue.head?
  | .emptying => publisher.outbox.queue.head?
  | _ => none

/-- The broker reports every record as delivered. -/
structure IsDelivering (publisher : Publisher) : Prop where
  handing : ∀ report emptying, publisher.pump = .handing report emptying → report = .delivered
  waiting : ∀ report ∈ publisher.reports.queue, report = .delivered
  awaited : ∀ awaited, publisher.drain = .running awaited → awaited = []

/-- Of what was accepted, the pump has taken so much, and all that can be observed of it are the
fates of these messages, in order; the last line may be that the pump was given up. -/
structure Settles (topic : Topic) (publisher : Publisher) (accepted taken : List Message)
    (fates : List Fate) : Prop where
  conserved : ∃ left, accepted = taken ++ left ∧
    (publisher.pump.isGone = false → left = publisher.outbox.queue)
  delivering : publisher.IsDelivering
  settled : fates = taken.map topic.fate ∨
    (publisher.pump.isGone = true ∧ publisher.isClosed = true ∧
      fates = taken.map topic.fate ++
        [.blamed (.publisherOverdue topic.name publisher.flushTimeout)])

variable {topic : Topic} {publisher after : Publisher} {accepted taken : List Message}
  {stored : List (String × Stored)} {fates : List Fate} {now : Nat} {cancelled : Bool}
  {broker brokerAfter : Broker} {happenings : List Happening}

theorem settles_create (topic : Topic) (settings : Settings.Producer) (scope : String) :
    (create topic .memory settings scope).Settles topic [] [] [] where
  conserved := ⟨[], rfl, fun _ => rfl⟩
  delivering := by
    constructor
    · intro report emptying handing
      cases handing
    · intro report member
      cases member
    · intro awaited running
      cases running
  settled := .inl rfl

private theorem IsDelivering.same (delivering : publisher.IsDelivering)
    (pump : after.pump = publisher.pump) (reports : after.reports = publisher.reports)
    (drain : after.drain = publisher.drain) : after.IsDelivering := by
  refine ⟨?_, ?_, ?_⟩
  · rw [pump]
    exact delivering.handing
  · rw [reports]
    exact delivering.waiting
  · rw [drain]
    exact delivering.awaited

/-- A publisher that keeps its pump and its outbox settles its messages as before. -/
private theorem Settles.same (settles : publisher.Settles topic accepted taken fates)
    (flushTimeout : after.flushTimeout = publisher.flushTimeout)
    (pump : after.pump = publisher.pump)
    (queue : after.outbox.queue = publisher.outbox.queue) (delivering : after.IsDelivering)
    (isClosed : publisher.isClosed = true → after.isClosed = true) :
    after.Settles topic accepted taken fates := by
  refine ⟨?_, delivering, ?_⟩
  · rw [pump, queue]
    exact settles.conserved
  · rw [pump, flushTimeout]
    exact settles.settled.imp_right fun ⟨gone, closed, last⟩ => ⟨gone, isClosed closed, last⟩

/-- As long as the pump is there it was not given up. -/
private theorem Settles.of_pump (settles : publisher.Settles topic accepted taken fates)
    (there : publisher.pump.isGone = false) :
    accepted = taken ++ publisher.outbox.queue ∧ fates = taken.map topic.fate := by
  obtain ⟨left, conserved, same⟩ := settles.conserved
  rw [same there] at conserved
  rcases settles.settled with told | ⟨gone, _⟩
  · exact ⟨conserved, told⟩
  · rw [there] at gone
    cases gone

/-- The other direction, for a publisher with another pump and outbox. -/
private theorem settles_of_pump (delivering : after.IsDelivering)
    (conserved : accepted = taken ++ after.outbox.queue) (settled : fates = taken.map topic.fate) :
    after.Settles topic accepted taken fates :=
  ⟨⟨after.outbox.queue, conserved, fun _ => rfl⟩, delivering, .inl settled⟩

/-! ## Single steps -/

private theorem Settles.opens {result : Option (Except Fault Nat)}
    (settles : publisher.Settles topic accepted taken fates)
    (carries : publisher.Carries topic accepted stored) (opens : publisher.Opens result after) :
    after.Settles topic accepted taken fates := by
  cases opens with
  | again isOpened => exact settles
  | crashed unstarted tooLarge =>
      obtain ⟨conserved, settled⟩ := settles.of_pump (by rw [unstarted]; rfl)
      exact settles_of_pump
        ⟨by simp, settles.delivering.waiting, settles.delivering.awaited⟩ conserved settled
  | started unstarted fits =>
      obtain ⟨empty, _⟩ := carries.idle (by rw [hasTasks, unstarted])
      obtain ⟨conserved, settled⟩ := settles.of_pump (by rw [unstarted]; rfl)
      rw [empty] at conserved
      apply settles_of_pump
      · constructor
        · intro report emptying handing
          cases handing
        · intro report member
          cases member
        · intro awaited running
          cases running
          rfl
      · exact conserved
      · exact settled

/-- What is accepted stands at the end of the outbox. -/
private theorem Settles.push {message : Message} {outbox : Channel Message}
    (settles : publisher.Settles topic accepted taken fates)
    (pushed : outbox.queue = publisher.outbox.queue ++ [message]) :
    Settles topic { publisher with outbox := outbox } (accepted ++ [message]) taken fates := by
  obtain ⟨left, conserved, same⟩ := settles.conserved
  refine ⟨⟨left ++ [message], ?_, ?_⟩, settles.delivering.same rfl rfl rfl, settles.settled⟩
  · rw [conserved, List.append_assoc]
  · intro there
    rw [same there, pushed]

private theorem Settles.beginClose (settles : publisher.Settles topic accepted taken fates)
    (memory : publisher.sink = .memory) (first : publisher.closing = .notYet) :
    (publisher.beginClose now).Settles topic accepted taken fates := by
  have unclosed {P : Prop} (isClosed : publisher.isClosed = true) : P := by
    unfold Publisher.isClosed at isClosed
    rw [first] at isClosed
    cases isClosed
  unfold Publisher.beginClose
  simp only [first]
  split
  · exact settles.same rfl rfl rfl (settles.delivering.same rfl rfl rfl) unclosed
  · simp only [memory, Sink.flush]
    exact settles.same rfl rfl rfl (settles.delivering.same rfl rfl rfl) unclosed

/-- A message that the pump has taken meets its fate, and its record is reported as delivered. -/
private theorem publish_memory (memory : publisher.sink = .memory) (emptying : Bool)
    (message : Message)
    (published : publisher.publish now emptying broker message = (after, brokerAfter, happenings)) :
    fatesOf happenings = [publisher.topic.fate message] ∧
      (after = publisher.proceed emptying ∨
        after = { publisher with pump := .handing .delivered emptying }) := by
  cases publish_published published with
  | unencodable encoding => exact ⟨by simp [fatesOf, Happening.fate?, Note.level, Topic.fate,
      Topic.stored?, encoding], .inl rfl⟩
  | refused encoding enqueued =>
      simp only [memory, Sink.enqueue] at enqueued
      cases enqueued
  | crashed encoding enqueued =>
      simp only [memory, Sink.enqueue] at enqueued
      cases enqueued
  | taken encoding enqueued =>
      simp only [memory, Sink.enqueue] at enqueued
      cases enqueued
      rw [appendedBy_append]
      refine ⟨by simp [fatesOf, Happening.fate?, Topic.fate, Topic.stored?, encoding, outbound],
        .inr ?_⟩
      rw [← memory]

private theorem IsDelivering.proceed (delivering : publisher.IsDelivering) (emptying : Bool) :
    (publisher.proceed emptying).IsDelivering := by
  refine ⟨?_, delivering.waiting, delivering.awaited⟩
  intro report isLast handing
  cases emptying <;> cases handing

/-- The pump takes a message from the outbox, and the fate of the message can be observed. -/
private theorem Settles.publish {message : Message} {rest : List Message}
    (settles : publisher.Settles topic accepted taken fates)
    (carries : publisher.Carries topic accepted stored) (emptying : Bool)
    (between : publisher.pump = betweenMessages emptying)
    (shape : publisher.outbox.queue = message :: rest)
    (published : Publisher.publish { publisher with
      outbox := { publisher.outbox with queue := rest } } now emptying broker message =
        (after, brokerAfter, happenings)) :
    after.Settles topic accepted (taken ++ [message]) (fates ++ fatesOf happenings) := by
  have there : publisher.pump.isGone = false := by
    rw [between]
    cases emptying <;> rfl
  obtain ⟨conserved, settled⟩ := settles.of_pump there
  have next : accepted = (taken ++ [message]) ++ rest := by
    rw [conserved, shape, List.append_assoc, List.singleton_append]
  have memory : sink { publisher with outbox := { publisher.outbox with queue := rest } } =
      .memory := carries.memory
  obtain ⟨fate, moved⟩ := publish_memory memory emptying message published
  have blamed : fates ++ fatesOf happenings = (taken ++ [message]).map topic.fate := by
    rw [fate, settled, ← carries.sameTopic, List.map_append]
    rfl
  rw [blamed]
  rcases moved with rfl | rfl
  · apply settles_of_pump
    · apply IsDelivering.proceed
      exact settles.delivering.same rfl rfl rfl
    · exact next
    · rfl
  · apply settles_of_pump
    · refine ⟨?_, settles.delivering.waiting, settles.delivering.awaited⟩
      intro report isLast handing
      cases handing
      rfl
    · exact next
    · rfl

private theorem Settles.stopReceiving (settles : publisher.Settles topic accepted taken fates)
    (receiving : publisher.pump = .receiving) :
    publisher.stopReceiving.Settles topic accepted taken fates := by
  obtain ⟨conserved, settled⟩ := settles.of_pump (by rw [receiving]; rfl)
  apply settles_of_pump
  · refine ⟨?_, settles.delivering.waiting, settles.delivering.awaited⟩
    intro report isLast handing
    cases handing
  · exact conserved
  · exact settled

/-- The report of a record is handed over, or the note about it is a warning. -/
private theorem Settles.handReport {report : Report} {emptying : Bool}
    (settles : publisher.Settles topic accepted taken fates)
    (handing : publisher.pump = .handing report emptying)
    (handed : publisher.handReport? cancelled emptying report = some (after, happenings)) :
    after.Settles topic accepted taken (fates ++ fatesOf happenings) := by
  obtain ⟨conserved, settled⟩ := settles.of_pump (by rw [handing]; rfl)
  have proceeds {reports : Channel Report} {happenings : List Happening}
      (delivered : ∀ report ∈ reports.queue, report = .delivered)
      (silent : fatesOf happenings = []) :
      ({ publisher with reports := reports }.proceed emptying).Settles topic accepted taken
        (fates ++ fatesOf happenings) := by
    rw [silent, List.append_nil]
    apply settles_of_pump
    · apply IsDelivering.proceed
      exact ⟨settles.delivering.handing, delivered, settles.delivering.awaited⟩
    · exact conserved
    · exact settled
  unfold handReport? at handed
  split at handed
  · cases handed
    exact proceeds settles.delivering.waiting rfl
  · split at handed
    · cases handed
      refine proceeds ?_ rfl
      intro waiting member
      rcases List.mem_append.mp member with before | last
      · exact settles.delivering.waiting waiting before
      · rw [List.mem_singleton.mp last]
        exact settles.delivering.handing report emptying handing
    · split at handed
      · cases handed
        exact proceeds settles.delivering.waiting rfl
      · cases handed

private theorem Settles.finishPump (settles : publisher.Settles topic accepted taken fates)
    (memory : publisher.sink = .memory) (emptying : publisher.pump = .emptying) (now : Nat) :
    (publisher.finishPump now).Settles topic accepted taken fates := by
  obtain ⟨conserved, settled⟩ := settles.of_pump (by rw [emptying]; rfl)
  have flushing : publisher.sink.flush publisher.flushTimeout = (.finished (.ok ()), .memory) := by
    rw [memory]
    rfl
  unfold Publisher.finishPump
  rw [flushing]
  apply settles_of_pump
  · refine ⟨?_, settles.delivering.waiting, settles.delivering.awaited⟩
    intro report isLast handing
    cases handing
  · exact conserved
  · exact settled

private theorem Settles.flushed (settles : publisher.Settles topic accepted taken fates)
    {deadline : Nat} {released : Bool} (flushing : publisher.pump = .flushing deadline released)
    {pump : Pump} (silent : ∀ report emptying, pump ≠ .handing report emptying) :
    Settles topic { publisher with pump := pump } accepted taken fates := by
  obtain ⟨conserved, settled⟩ := settles.of_pump (by rw [flushing]; rfl)
  apply settles_of_pump
  · refine ⟨?_, settles.delivering.waiting, settles.delivering.awaited⟩
    intro report emptying handing
    exact absurd handing (silent report emptying)
  · exact conserved
  · exact settled

/-- A step of the pump takes the message that comes next, if there is one. -/
private theorem Settles.pumpStep (settles : publisher.Settles topic accepted taken fates)
    (carries : publisher.Carries topic accepted stored)
    (moved : publisher.pumpStep? now cancelled broker = some (after, brokerAfter, happenings)) :
    after.Settles topic accepted (taken ++ (publisher.upcoming? cancelled).toList)
      (fates ++ fatesOf happenings) := by
  have nothing (settled : after.Settles topic accepted taken fates) :
      after.Settles topic accepted (taken ++ (none : Option Message).toList)
        (fates ++ fatesOf []) := by
    simpa using settled
  unfold pumpStep? at moved
  unfold upcoming?
  split at moved
  · rename_i receiving
    simp only [receiving]
    cases cancelled with
    | true =>
        cases moved
        exact nothing (settles.stopReceiving receiving)
    | false =>
        simp only [Bool.false_eq_true, if_false] at moved ⊢
        split at moved
        · rename_i message outbox popped
          obtain ⟨rest, shape, rfl⟩ := Channel.pop?_eq_some_iff.mp popped
          rw [shape]
          exact settles.publish carries false receiving shape (Option.some.inj moved)
        · rename_i unpopped
          rw [Channel.pop?_eq_none_iff.mp unpopped]
          split at moved
          · cases moved
          · cases moved
            exact nothing (settles.stopReceiving receiving)
  · rename_i report emptying handing
    simp only [handing]
    obtain ⟨⟨handed, notes⟩, handingOver, same⟩ := Option.map_eq_some_iff.mp moved
    cases same
    simpa using settles.handReport handing handingOver
  · rename_i emptying
    simp only [emptying]
    split at moved
    · rename_i message outbox popped
      obtain ⟨rest, shape, rfl⟩ := Channel.pop?_eq_some_iff.mp popped
      rw [shape]
      exact settles.publish carries true emptying shape (Option.some.inj moved)
    · rename_i unpopped
      rw [Channel.pop?_eq_none_iff.mp unpopped]
      cases moved
      exact nothing (settles.finishPump carries.memory emptying now)
  · rename_i deadline released flushing
    simp only [flushing]
    have finished (result : Except Fault Unit) :
        Settles topic { publisher with pump := .finished result } accepted taken fates :=
      settles.flushed flushing (by simp)
    split at moved
    · cases moved
      exact nothing (finished _)
    · split at moved
      · cases moved
        simpa [fatesOf, Happening.fate?, Note.level] using finished (.error publisher.overdueFlush)
      · cases moved
  · cases moved
  · cases moved
  · cases moved
  · cases moved

/-- The drain has nothing to tell. -/
private theorem Settles.drainStep (settles : publisher.Settles topic accepted taken fates)
    (moved : publisher.drainStep? now = some (after, happenings)) :
    after.Settles topic accepted taken (fates ++ fatesOf happenings) := by
  have delivering := settles.delivering
  have drained {reports : Channel Report} {drain : Drain}
      (waiting : ∀ report ∈ reports.queue, report = .delivered)
      (awaited : ∀ awaited, drain = .running awaited → awaited = []) :
      Settles topic { publisher with reports := reports, drain := drain } accepted taken
        (fates ++ fatesOf []) := by
    rw [fatesOf_nil, List.append_nil]
    exact settles.same rfl rfl rfl ⟨delivering.handing, waiting, awaited⟩ id
  unfold drainStep? at moved
  split at moved
  · rename_i awaited running
    obtain rfl := delivering.awaited awaited running
    split at moved
    · rename_i report reports popped
      obtain ⟨rest, shape, rfl⟩ := Channel.pop?_eq_some_iff.mp popped
      have waiting : ∀ report ∈ rest, report = .delivered := by
        intro other member
        apply delivering.waiting
        rw [shape]
        exact List.mem_cons_of_mem _ member
      obtain rfl : report = .delivered := by
        apply delivering.waiting
        rw [shape]
        exact List.mem_cons_self
      cases moved
      exact drained waiting delivering.awaited
    · simp only [takeDue] at moved
      split at moved
      · cases moved
        exact drained delivering.waiting (by simp)
      · cases moved
  · cases moved
  · cases moved
  · cases moved

/-- A close leaves an error line only when it gives up the pump, and that is the last line. -/
private theorem Settles.closeStep (settles : publisher.Settles topic accepted taken fates)
    (sameTopic : publisher.topic = topic)
    (moved : publisher.closeStep? now = some (after, happenings)) :
    after.Settles topic accepted taken (fates ++ fatesOf happenings) := by
  have delivering := settles.delivering
  have closes {result : Except Fault Unit} {reports : Channel Report} {drain : Drain}
      (waiting : ∀ report ∈ reports.queue, report = .delivered)
      (awaited : ∀ awaited, drain = .running awaited → awaited = []) :
      Settles topic { publisher with reports := reports, drain := drain, closing := .done result }
        accepted taken (fates ++ fatesOf []) := by
    rw [fatesOf_nil, List.append_nil]
    exact settles.same rfl rfl rfl ⟨delivering.handing, waiting, awaited⟩ fun _ => rfl
  unfold closeStep? at moved
  split at moved
  · split at moved
    · cases moved
      exact closes delivering.waiting delivering.awaited
    · cases moved
  · rename_i deadline awaiting
    split at moved
    · cases moved
      rw [fatesOf_nil, List.append_nil]
      refine settles.same rfl rfl rfl (delivering.same rfl rfl rfl) ?_
      intro isClosed
      unfold Publisher.isClosed at isClosed
      rw [awaiting] at isClosed
      cases isClosed
    · cases moved
      exact closes delivering.waiting delivering.awaited
    · split at moved
      · cases moved
        obtain ⟨left, conserved, _⟩ := settles.conserved
        have told : fates = taken.map topic.fate := by
          rcases settles.settled with told | ⟨_, isClosed, _⟩
          · exact told
          · unfold Publisher.isClosed at isClosed
            rw [awaiting] at isClosed
            cases isClosed
        refine ⟨⟨left, conserved, ?_⟩, ⟨?_, ?_, ?_⟩, .inr ⟨rfl, rfl, ?_⟩⟩
        · intro there
          cases there
        · intro report emptying handing
          cases handing
        · intro report member
          cases member
        · intro awaited running
          cases running
        · rw [told, ← sameTopic]
          rfl
      · cases moved
  · split at moved
    · cases moved
      exact closes delivering.waiting delivering.awaited
    · cases moved
      exact closes delivering.waiting delivering.awaited
    · split at moved
      · cases moved
        refine closes ?_ ?_
        · intro report member
          cases member
        · intro awaited running
          cases running
      · cases moved
  · cases moved
  · cases moved

/-! ## One action -/

/-- Nothing else than a step of the pump takes a message. -/
theorem Changes.settles {system : System} {n : Nat} {action : Action} {reply : Reply}
    (changed : publisher.Changes system n action reply happenings after brokerAfter)
    (unpumped : action ≠ .step (.pump n)) (settles : publisher.Settles topic accepted taken fates)
    (carries : publisher.Carries topic accepted stored) :
    after.Settles topic (accepted ++ (acceptedIn n action reply).toList) taken
      (fates ++ fatesOf happenings) := by
  have still {after : Publisher} (settles : after.Settles topic accepted taken fates) :
      after.Settles topic (accepted ++ (none : Option Message).toList) taken
        (fates ++ fatesOf []) := by
    simpa using settles
  cases changed with
  | opened opens => exact still (settles.opens carries opens)
  | @sent message outbox sameKind sending =>
      have silent : fatesOf [.accepted message] = [] := rfl
      rw [silent]
      obtain ⟨_, _, rfl⟩ := Channel.send_accepted_iff.mp sending
      simpa [acceptedIn] using settles.push rfl
  | @filled message sameKind placed =>
      have silent : fatesOf [.accepted message] = [] := rfl
      have filled : (publisher.fill message).Settles topic (accepted ++ [message]) taken fates :=
        settles.push rfl
      rw [silent]
      simpa [acceptedIn] using filled
  | reserved given =>
      obtain ⟨_, _, rfl⟩ := Channel.reserve_accepted_iff.mp given
      exact still (settles.same rfl rfl rfl (settles.delivering.same rfl rfl rfl) id)
  | outboxDropped =>
      exact still (settles.same rfl rfl rfl (settles.delivering.same rfl rfl rfl) id)
  | closeBegun isHeld first => exact still (settles.beginClose carries.memory first)
  | dropped =>
      exact still (settles.same rfl rfl rfl (settles.delivering.same rfl rfl rfl) id)
  | callsTaken scripted =>
      rw [carries.memory] at scripted
      cases scripted
  | flushReleased =>
      apply still
      unfold releaseFlush
      split
      · rename_i deadline released flushing
        exact settles.flushed flushing (by simp)
      · exact settles
  | pumped moved => exact absurd rfl unpumped
  | drained moved => simpa [acceptedIn] using settles.drainStep moved
  | closeStepped moved => simpa [acceptedIn] using settles.closeStep carries.sameTopic moved

private theorem upcoming?_of_stuck (stuck : publisher.pumpStep? now cancelled broker = none) :
    publisher.upcoming? cancelled = none := by
  unfold upcoming?
  unfold pumpStep? at stuck
  cases pump : publisher.pump with
  | receiving =>
      simp only [pump] at stuck ⊢
      cases cancelled with
      | true => rfl
      | false =>
          cases shape : publisher.outbox.queue with
          | nil => rfl
          | cons message rest => simp [Channel.pop?, shape] at stuck
  | emptying =>
      simp only [pump] at stuck ⊢
      cases shape : publisher.outbox.queue with
      | nil => rfl
      | cons message rest => simp [Channel.pop?, shape] at stuck
  | unstarted | missing | handing report emptying | flushing deadline released | finished result
  | gone => rfl

end Publisher

/-! ## Runs -/

namespace System

variable {system : System} {n : Nat} {topic : Topic} {accepted taken : List Message}
  {stored : List (String × Stored)} {fates : List Fate} {action : Action}

/-- The message that the pump of a publisher takes by an action. -/
def taken? (system : System) (n : Nat) : Action → Option Message
  | .step (.pump m) =>
      if m = n then system.publishers[n]?.bind fun publisher =>
        publisher.upcoming? (system.isPublisherStopped publisher)
      else none
  | _ => none

/-- The messages that the pump of a publisher takes along a run. -/
def takenBy (system : System) (n : Nat) (actions : List Action) : List Message :=
  system.seenAlong (fun system => system.taken? n) actions

private theorem taken?_of_ne (unpumped : action ≠ .step (.pump n)) :
    system.taken? n action = none := by
  unfold taken?
  split
  · rename_i m
    have different : m ≠ n := by
      rintro rfl
      exact unpumped rfl
    exact if_neg different
  · rfl

/-- The publisher with a number settles what its pump has taken. -/
def HasSettled (system : System) (n : Nat) (topic : Topic) (accepted taken : List Message)
    (stored : List (String × Stored)) (fates : List Fate) : Prop :=
  ∃ publisher, system.publishers[n]? = some publisher ∧
    publisher.Carries topic accepted stored ∧ publisher.Settles topic accepted taken fates

private theorem HasSettled.pump (settled : system.HasSettled n topic accepted taken stored fates) :
    let happenings := happeningsOf (.publisher n) (system.act (.step (.pump n))).2.2
    (system.next (.step (.pump n))).HasSettled n topic accepted
      (taken ++ (system.taken? n (.step (.pump n))).toList)
      (stored ++ (entriesOf happenings).map Entry.stored) (fates ++ fatesOf happenings) := by
  obtain ⟨publisher, there, carries, settles⟩ := settled
  have upcoming : system.taken? n (.step (.pump n)) =
      publisher.upcoming? (system.isPublisherStopped publisher) := by
    simp [taken?, there]
  rw [upcoming]
  cases moving : publisher.pumpStep? system.now (system.isPublisherStopped publisher)
      system.broker with
  | none =>
      have nothing : system.act (.step (.pump n)) = (.absent, system, []) := by
        simp [act, step, step?, pumpStep?, there, moving, absent]
      rw [next, nothing, Publisher.upcoming?_of_stuck moving]
      exact ⟨publisher, there, by simpa using carries, by simpa using settles⟩
  | some moved =>
      obtain ⟨after, broker, happenings⟩ := moved
      have stepped : system.act (.step (.pump n)) =
          (.done, { system.setPublisher n after with broker := broker },
            eventsOf (.publisher n) happenings) := by
        simp [act, step, step?, pumpStep?, there, moving]
      obtain ⟨inside, _⟩ := List.getElem?_eq_some_iff.mp there
      have carriesAfter := (Publisher.Changes.pumped (n := n) moving).carries carries
      rw [next, stepped, happeningsOf_eventsOf]
      exact ⟨after, List.getElem?_set_self inside, by simpa [acceptedIn] using carriesAfter,
        settles.pumpStep carries moving⟩

theorem HasSettled.after (settled : system.HasSettled n topic accepted taken stored fates)
    (actions : List Action) :
    (system.after actions).HasSettled n topic (accepted ++ system.acceptedBy n actions)
      (taken ++ system.takenBy n actions)
      (stored ++ (system.storedBy n actions).map Entry.stored)
      (fates ++ fatesOf (happeningsOf (.publisher n) (system.events actions))) := by
  induction actions generalizing system accepted taken stored fates with
  | nil => simpa [acceptedBy, takenBy, storedBy, seenAlong, run] using settled
  | cons action rest inductionHypothesis =>
      have next : (system.next action).HasSettled n topic
          (accepted ++ (acceptedIn n action (system.act action).1).toList)
          (taken ++ (system.taken? n action).toList)
          (stored ++ (entriesOf (happeningsOf (.publisher n) (system.act action).2.2)).map
            Entry.stored)
          (fates ++ fatesOf (happeningsOf (.publisher n) (system.act action).2.2)) := by
        by_cases pumped : action = .step (.pump n)
        · subst pumped
          simpa [acceptedIn] using settled.pump
        · rw [taken?_of_ne pumped]
          obtain ⟨publisher, there, carries, settles⟩ := settled
          rcases (system.act_effect action).publisher_frame there with
            ⟨moved, thereAfter, changed⟩ | ⟨thereAfter, silent, untaken⟩
          · exact ⟨moved, thereAfter, changed.carries carries,
              by simpa using changed.settles pumped settles carries⟩
          · rw [silent, untaken]
            exact ⟨publisher, thereAfter, by simpa using carries, by simpa using settles⟩
      have later := inductionHypothesis next
      rw [after_cons, acceptedBy_cons, storedBy_cons, takenBy, seenAlong, events_cons,
        happeningsOf_append, fatesOf_append]
      simpa [takenBy] using later

end System

end TopicBus
