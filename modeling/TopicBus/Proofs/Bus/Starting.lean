import TopicBus.Bus.Consumer

/-!
# How an instance is opened and begins to close

Who was opened before is not opened again. Otherwise the tasks are started over a new channel;
if there can be no such channel, the call crashes and nothing is started. A consumer subscribes
before that, which its source may refuse. A close waits for the tasks, if they were started.
-/

namespace TopicBus

theorem Channel.ofBuffer?_eq_some_iff {α : Type} {buffer : Nat} {channel : Channel α} :
    ofBuffer? buffer = some channel ↔ buffer ≤ greatestCapacity ∧ ofBuffer buffer = channel := by
  unfold ofBuffer?
  split
  · rename_i fits
    simp [fits]
  · rename_i tooLarge
    simp [tooLarge]

theorem Channel.ofBuffer?_eq_none_iff {α : Type} {buffer : Nat} :
    (ofBuffer? buffer : Option (Channel α)) = none ↔ greatestCapacity < buffer := by
  simp [ofBuffer?]

/-! ## Publishers -/

namespace Publisher

/-- What opening a publisher can be: the result, unless the call crashes, and the publisher
afterwards. -/
inductive Opens (publisher : Publisher) : Option (Except Fault Nat) → Publisher → Prop
  | again (isOpened : publisher.isOpened = true) :
      Opens publisher (some (.error .alreadyOpen)) publisher
  | crashed (unstarted : publisher.pump = .unstarted)
      (tooLarge : Channel.greatestCapacity < publisher.buffer) :
      Opens publisher none { publisher with pump := .missing }
  | started (unstarted : publisher.pump = .unstarted)
      (fits : publisher.buffer ≤ Channel.greatestCapacity) :
      Opens publisher (some (.ok (max publisher.buffer 1)))
        { publisher with
          outbox := .ofBuffer publisher.buffer
          reports := .ofBuffer reportQueue
          pump := .receiving
          drain := .running [] }

variable {publisher : Publisher}

theorem unstarted_of_not_isOpened (unopened : ¬publisher.isOpened = true) :
    publisher.pump = .unstarted := by
  unfold isOpened at unopened
  split at unopened
  · assumption
  · exact absurd rfl unopened

/-- A publisher is opened in one of these ways. -/
theorem openOutbox_opens (publisher : Publisher) :
    publisher.Opens publisher.openOutbox.1 publisher.openOutbox.2 := by
  unfold openOutbox
  split
  · rename_i isOpened
    exact .again isOpened
  · rename_i unopened
    have unstarted := unstarted_of_not_isOpened unopened
    split
    · rename_i crashes
      exact .crashed unstarted (Channel.ofBuffer?_eq_none_iff.mp crashes)
    · rename_i outbox opens
      obtain ⟨fits, rfl⟩ := Channel.ofBuffer?_eq_some_iff.mp opens
      exact .started unstarted fits

theorem Opens.eq_of_isOpened {after : Publisher} {result : Option (Except Fault Nat)}
    (opens : publisher.Opens result after) (isOpened : publisher.isOpened = true) :
    after = publisher := by
  cases opens with
  | again isOpened => rfl
  | crashed unstarted tooLarge | started unstarted fits =>
      rw [Publisher.isOpened, unstarted] at isOpened
      cases isOpened

/-- A close begins with the stop, and touches neither the tasks nor their channels. -/
theorem beginClose_spares (publisher : Publisher) (now : Nat) :
    ∃ sink stopped closing, publisher.beginClose now =
      { publisher with sink := sink, stopped := stopped, closing := closing } := by
  unfold beginClose
  split
  · dsimp only
    split
    · exact ⟨_, _, _, rfl⟩
    · split
      · exact ⟨_, _, _, rfl⟩
      · exact ⟨_, _, _, rfl⟩
  · exact ⟨_, _, _, rfl⟩

theorem beginClose_of_hasTasks (hasTasks : publisher.hasTasks = true)
    (first : publisher.closing = .notYet) (now : Nat) :
    publisher.beginClose now =
      { publisher with
        stopped := true, closing := .awaitingTask (now + publisher.flushTimeout) } := by
  unfold beginClose
  rw [first]
  exact if_pos hasTasks

/-- A publisher without tasks was not opened, or opening it has crashed. -/
theorem pump_of_not_hasTasks (idle : ¬publisher.hasTasks = true) :
    publisher.pump = .unstarted ∨ publisher.pump = .missing := by
  unfold hasTasks at idle
  split at idle
  · exact .inl ‹_›
  · exact .inr ‹_›
  · exact absurd rfl idle

theorem pump_of_isOpened (isOpened : publisher.isOpened = true)
    (idle : ¬publisher.hasTasks = true) : publisher.pump = .missing := by
  rcases pump_of_not_hasTasks idle with unstarted | missing
  · rw [Publisher.isOpened, unstarted] at isOpened
    cases isOpened
  · exact missing

end Publisher

/-! ## Consumers -/

namespace Consumer

/-- What opening a consumer can be: the result, unless the call crashes, and the consumer
afterwards. -/
inductive Opens (consumer : Consumer) : Option (Except Fault Unit) → Consumer → Prop
  | again (isOpened : consumer.isOpened = true) :
      Opens consumer (some (.error .alreadyOpen)) consumer
  | refused {fault : Fault} {source : Source} (unstarted : consumer.loop = .unstarted)
      (subscribing : consumer.source.subscribe consumer.topic.name = (.error fault, source)) :
      Opens consumer (some (.error fault)) { consumer with source := source }
  | crashed {source : Source} (unstarted : consumer.loop = .unstarted)
      (subscribing : consumer.source.subscribe consumer.topic.name = (.ok (), source))
      (tooLarge : Channel.greatestCapacity < consumer.buffer) :
      Opens consumer none { consumer with source := source, loop := .missing }
  | started {source : Source} (unstarted : consumer.loop = .unstarted)
      (subscribing : consumer.source.subscribe consumer.topic.name = (.ok (), source))
      (fits : consumer.buffer ≤ Channel.greatestCapacity) :
      Opens consumer (some (.ok ()))
        { consumer with source := source, inbox := .ofBuffer consumer.buffer, loop := .polling }

variable {consumer : Consumer}

theorem unstarted_of_not_isOpened (unopened : ¬consumer.isOpened = true) :
    consumer.loop = .unstarted := by
  unfold isOpened at unopened
  split at unopened
  · assumption
  · exact absurd rfl unopened

/-- A consumer is opened in one of these ways. -/
theorem openInbox_opens (consumer : Consumer) :
    consumer.Opens consumer.openInbox.1 consumer.openInbox.2 := by
  unfold openInbox
  split
  · rename_i isOpened
    exact .again isOpened
  · rename_i unopened
    have unstarted := unstarted_of_not_isOpened unopened
    split
    · rename_i fault source subscribing
      exact .refused unstarted subscribing
    · rename_i source subscribing
      split
      · rename_i crashes
        exact .crashed unstarted subscribing (Channel.ofBuffer?_eq_none_iff.mp crashes)
      · rename_i inbox opens
        obtain ⟨fits, rfl⟩ := Channel.ofBuffer?_eq_some_iff.mp opens
        exact .started unstarted subscribing fits

theorem Opens.eq_of_isOpened {after : Consumer} {result : Option (Except Fault Unit)}
    (opens : consumer.Opens result after) (isOpened : consumer.isOpened = true) :
    after = consumer := by
  cases opens with
  | again isOpened => rfl
  | refused unstarted | crashed unstarted | started unstarted =>
      rw [Consumer.isOpened, unstarted] at isOpened
      cases isOpened

/-- A close begins with the stop. -/
theorem stopped_beginClose (first : consumer.closing = .notYet) (now : Nat) :
    (consumer.beginClose now).stopped = true := by
  unfold beginClose
  rw [first]
  dsimp only
  split
  · rfl
  · rfl

/-- A consumer without a loop was not opened, or opening it has crashed. -/
theorem loop_of_not_hasLoop (idle : ¬consumer.hasLoop = true) :
    consumer.loop = .unstarted ∨ consumer.loop = .missing := by
  unfold hasLoop at idle
  split at idle
  · exact .inl ‹_›
  · exact .inr ‹_›
  · exact absurd rfl idle

end Consumer

end TopicBus
