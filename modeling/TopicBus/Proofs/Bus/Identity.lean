import TopicBus.Proofs.Bus.Acknowledgement
import TopicBus.Proofs.Bus.Frames
import TopicBus.Proofs.Bus.Loop

/-!
# What a consumer never loses

A consumer keeps the topic that it was made for, and its source remains what it is: whoever uses
the broker inside the process does so for good.
-/

namespace TopicBus

/-- Whether a source is a client of the broker inside the process. -/
def Source.isMemory : Source → Bool
  | .memory _ => true
  | .scripted _ | .remote _ => false

theorem Source.isMemory_iff {source : Source} :
    source.isMemory = true ↔ ∃ client, source = .memory client := by
  cases source with
  | memory client => simp [isMemory]
  | scripted script => simp [isMemory]
  | remote group => simp [isMemory]

/-! ## Sources -/

namespace Source

variable (source : Source)

@[simp]
theorem isMemory_subscribe (topic : String) :
    (source.subscribe topic).2.isMemory = source.isMemory := by
  cases source with
  | memory client => rfl
  | scripted script =>
      simp only [subscribe]
      split <;> rfl
  | remote group => cases group <;> rfl

@[simp]
theorem isMemory_poll (broker : Broker) : (source.poll broker).2.isMemory = source.isMemory := by
  cases source with
  | memory client =>
      simp only [poll]
      split <;> rfl
  | scripted script =>
      simp only [poll]
      split
      · rfl
      · split <;> rfl
  | remote group => rfl

@[simp]
theorem isMemory_commit (broker : Broker) (token : Token) :
    (source.commit broker token).2.1.isMemory = source.isMemory := by
  cases source with
  | memory client => rfl
  | scripted script =>
      simp only [commit]
      split <;> rfl
  | remote group => rfl

@[simp]
theorem isMemory_close : source.close.2.isMemory = source.isMemory := by
  cases source with
  | memory client => rfl
  | scripted script =>
      simp only [close]
      split <;> rfl
  | remote group => rfl

end Source

/-! ## Consumers -/

/-- Whether two consumers are of one topic and use the broker inside the process alike. -/
def Consumer.IsAkin (consumer other : Consumer) : Prop :=
  other.topic = consumer.topic ∧ other.source.isMemory = consumer.source.isMemory

namespace Consumer

variable {consumer after : Consumer} {broker brokerAfter : Broker}

/-- Who is akin to a consumer of the broker is one. -/
theorem IsAkin.exists_client {client : Client} (akin : consumer.IsAkin after)
    (memory : after.source = .memory client) : ∃ before, consumer.source = .memory before := by
  rw [← Source.isMemory_iff, ← akin.2]
  exact Source.isMemory_iff.mpr ⟨client, memory⟩

private theorem isAkin_finishClose (consumer : Consumer) : consumer.IsAkin consumer.finishClose :=
  ⟨rfl, consumer.source.isMemory_close⟩

private theorem isAkin_commit {token : Token} {result : Except Fault Unit}
    (done : consumer.commit broker token = (result, after, brokerAfter)) :
    consumer.IsAkin after := by
  have moved : after = { consumer with source := (consumer.source.commit broker token).2.1 } := by
    cases done
    rfl
  subst moved
  exact ⟨rfl, consumer.source.isMemory_commit broker token⟩

private theorem isAkin_ack? {receipt : Nat} {result : Except Fault Unit}
    (done : consumer.ack? broker receipt = some (result, after, brokerAfter)) :
    consumer.IsAkin after := by
  cases ack?_acking done with
  | again found isAcked => exact ⟨rfl, rfl⟩
  | unmade found unacked missing => exact ⟨rfl, rfl⟩
  | failed found unacked carried committing => exact isAkin_commit committing
  | marked found unacked carried committing =>
      obtain ⟨topic, memory⟩ := isAkin_commit committing
      exact ⟨topic, memory⟩

private theorem Opens.isAkin {result : Option (Except Fault Unit)}
    (opens : consumer.Opens result after) : consumer.IsAkin after := by
  have kept := consumer.source.isMemory_subscribe consumer.topic.name
  cases opens with
  | again isOpened => exact ⟨rfl, rfl⟩
  | refused unstarted subscribing | crashed unstarted subscribing tooLarge
  | started unstarted subscribing fits =>
      rw [subscribing] at kept
      exact ⟨rfl, kept⟩

private theorem isAkin_beginClose (consumer : Consumer) (now : Nat) :
    consumer.IsAkin (consumer.beginClose now) := by
  unfold beginClose
  split
  · by_cases hasLoop : hasLoop { consumer with stopped := true } = true
    · simp only [hasLoop, if_true]
      exact ⟨rfl, rfl⟩
    · simp only [hasLoop, Bool.false_eq_true, if_false]
      exact isAkin_finishClose { consumer with stopped := true }
  · exact ⟨rfl, rfl⟩

private theorem isAkin_handle (consumer : Consumer) (record : Record) :
    consumer.IsAkin (consumer.handle record).1 := by
  unfold handle
  split
  · exact ⟨rfl, rfl⟩
  · split
    · exact ⟨rfl, rfl⟩
    · exact ⟨rfl, rfl⟩

private theorem isAkin_look (consumer : Consumer) (now : Nat) (broker : Broker) :
    consumer.IsAkin (consumer.look now broker).1 := by
  have kept := consumer.source.isMemory_poll broker
  unfold look
  cases polling : consumer.source.poll broker with
  | mk polled source =>
      rw [polling] at kept
      cases polled with
      | record record =>
          obtain ⟨topic, memory⟩ := isAkin_handle { consumer with source := source } record
          exact ⟨topic, memory.trans kept⟩
      | nothing | idle | crashed => exact ⟨rfl, kept⟩
      | failed fault => exact ⟨rfl, kept⟩

private theorem isAkin_loopStep? {now : Nat} {cancelled : Bool} {happenings : List Happening}
    (moved : consumer.loopStep? now cancelled broker = some (after, happenings)) :
    consumer.IsAkin after := by
  cases loopStep?_step moved with
  | ended reason isRunning => exact ⟨rfl, rfl⟩
  | turned turns goesOn => exact ⟨rfl, rfl⟩
  | asked goesOn asking => exact isAkin_look consumer now broker
  | put holds hasReceiver hasRoom goesOn => exact ⟨rfl, rfl⟩

private theorem isAkin_closeStep? (moved : consumer.closeStep? = some after) :
    consumer.IsAkin after := by
  unfold closeStep? at moved
  split at moved
  · cases moved
    exact isAkin_finishClose consumer
  · cases moved
    exact ⟨rfl, rfl⟩
  · cases moved

theorem Changes.isAkin {system : System} {n : Nat} {action : Action} {reply : Reply}
    {happenings : List Happening}
    (changed : consumer.Changes system n action reply happenings after brokerAfter) :
    consumer.IsAkin after := by
  cases changed with
  | opened opens => exact opens.isAkin
  | received canReceive taken =>
      obtain ⟨_, _, same⟩ := Option.map_eq_some_iff.mp taken
      cases same
      exact ⟨rfl, rfl⟩
  | inboxClosed canReceive | inboxDropped => exact ⟨rfl, rfl⟩
  | closeBegun isHeld first => exact isAkin_beginClose consumer system.now
  | dropped => exact ⟨rfl, rfl⟩
  | committed done => exact isAkin_commit done
  | acked done => exact isAkin_ack? done
  | revised scripted =>
      refine ⟨rfl, ?_⟩
      rw [scripted]
      rfl
  | callsTaken scripted =>
      refine ⟨rfl, ?_⟩
      rw [scripted]
      rfl
  | looped moved => exact isAkin_loopStep? moved
  | closeStepped moved => exact isAkin_closeStep? moved

end Consumer

/-! ## Consumers on a bus -/

namespace System

variable {system : System} {n : Nat} {consumer : Consumer}

theorem consumer_next (there : system.consumers[n]? = some consumer) (action : Action) :
    ∃ after, (system.next action).consumers[n]? = some after ∧ consumer.IsAkin after := by
  rcases (system.act_effect action).consumer_frame there with
    ⟨moved, found, changed⟩ | ⟨found, _, _⟩
  · exact ⟨moved, found, changed.isAkin⟩
  · exact ⟨consumer, found, rfl, rfl⟩

theorem consumer_after (there : system.consumers[n]? = some consumer) (actions : List Action) :
    ∃ after, (system.after actions).consumers[n]? = some after ∧ consumer.IsAkin after := by
  apply after_of_next fun later =>
    ∃ after, later.consumers[n]? = some after ∧ consumer.IsAkin after
  · rintro later action ⟨before, found, topic, memory⟩
    obtain ⟨moved, thereAfter, sameTopic, sameSource⟩ := consumer_next found action
    exact ⟨moved, thereAfter, sameTopic.trans topic, sameSource.trans memory⟩
  · exact ⟨consumer, there, rfl, rfl⟩

end System

end TopicBus
