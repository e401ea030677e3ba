import TopicBus.Bus.Consumer

/-!
# A step of a poll loop

A step of the loop ends it, lets a poll go on without a look, looks into the source, or puts the
held message into the inbox. The loop asks the source when it looks for the first time in a
poll, and when it was woken and looks again.
-/

namespace TopicBus

namespace PollLoop

/-- The message that a loop holds. -/
def held? : PollLoop → Option Message
  | .holding message => some message
  | _ => none

@[simp]
theorem isRunning_afterNothing (loop : PollLoop) (deadline : Nat) :
    (loop.afterNothing deadline).isRunning = true := by
  cases loop <;> rfl

@[simp]
theorem held?_afterNothing (loop : PollLoop) (deadline : Nat) :
    (loop.afterNothing deadline).held? = none := by
  cases loop <;> rfl

theorem ne_unstarted_of_isRunning {loop : PollLoop} (isRunning : loop.isRunning = true) :
    loop ≠ .unstarted := by
  rintro rfl
  cases isRunning

end PollLoop

namespace Consumer

/-- Whether the next step of the loop looks into the source, unless the consumer is stopped. -/
def isAsking (consumer : Consumer) : Bool :=
  match consumer.loop with
  | .looking _ | .lookingAgain => true
  | _ => false

/-- How a poll goes on without a look. -/
inductive Turns (consumer : Consumer) (now : Nat) (broker : Broker) : PollLoop → Prop
  /-- A poll begins, and so many notices were given before. -/
  | begun (polling : consumer.loop = .polling) :
      Turns consumer now broker (.looking (consumer.source.awaited broker))
  | woken {deadline notices : Nat} (waiting : consumer.loop = .waiting deadline (some notices))
      (noticed : notices < broker.notices) : Turns consumer now broker .lookingAgain
  | expired {deadline : Nat} {notices : Option Nat}
      (waiting : consumer.loop = .waiting deadline notices) (isDue : deadline ≤ now) :
      Turns consumer now broker .polling

/-- What a step of a loop can be. -/
inductive LoopStep (consumer : Consumer) (now : Nat) (cancelled : Bool) (broker : Broker) :
    Consumer → List Happening → Prop
  /-- The consumer was stopped, or nobody takes the held message any more. -/
  | ended
      (reason : cancelled = true ∨
        ∃ message, consumer.loop = .holding message ∧ consumer.inbox.hasReceiver = false)
      (isRunning : consumer.loop.isRunning = true) :
      LoopStep consumer now cancelled broker (consumer.endLoop .ended) []
  | turned {loop : PollLoop} (turns : consumer.Turns now broker loop) (goesOn : cancelled = false) :
      LoopStep consumer now cancelled broker { consumer with loop := loop } []
  | asked (goesOn : cancelled = false) (asking : consumer.isAsking = true) :
      LoopStep consumer now cancelled broker (consumer.look now broker).1
        (consumer.look now broker).2
  | put {message : Message} (holds : consumer.loop = .holding message)
      (hasReceiver : consumer.inbox.hasReceiver = true) (hasRoom : consumer.inbox.hasRoom = true)
      (goesOn : cancelled = false) :
      LoopStep consumer now cancelled broker
        { consumer with loop := .polling, inbox := consumer.inbox.push message } []

variable {consumer after : Consumer} {now : Nat} {cancelled : Bool} {broker : Broker}
  {happenings : List Happening}

theorem isOpened_of_isRunning (isRunning : consumer.loop.isRunning = true) :
    consumer.isOpened = true := by
  unfold isOpened
  split
  · rename_i unstarted
    rw [unstarted] at isRunning
    cases isRunning
  · rfl

/-- A loop that looks is running and holds nothing. -/
theorem loop_of_asking (asking : consumer.isAsking = true) :
    consumer.loop.isRunning = true ∧ consumer.loop.held? = none := by
  unfold isAsking at asking
  split at asking
  · rename_i looking
    simp [looking, PollLoop.isRunning, PollLoop.held?]
  · rename_i looking
    simp [looking, PollLoop.isRunning, PollLoop.held?]
  · cases asking

namespace Turns

variable {loop : PollLoop}

/-- A loop whose poll goes on was running and holds nothing. -/
theorem comesFrom (turns : consumer.Turns now broker loop) :
    consumer.loop.isRunning = true ∧ consumer.loop.held? = none := by
  cases turns with
  | begun polling => simp [polling, PollLoop.isRunning, PollLoop.held?]
  | woken waiting noticed => simp [waiting, PollLoop.isRunning, PollLoop.held?]
  | expired waiting isDue => simp [waiting, PollLoop.isRunning, PollLoop.held?]

/-- A loop whose poll goes on keeps running and holds nothing. -/
theorem leadsTo (turns : consumer.Turns now broker loop) :
    loop.isRunning = true ∧ loop.held? = none := by
  cases turns with
  | begun polling | woken waiting noticed | expired waiting isDue => exact ⟨rfl, rfl⟩

/-- A poll that goes on without a look does not look at that step. -/
theorem not_isAsking (turns : consumer.Turns now broker loop) :
    consumer.isAsking = false := by
  cases turns with
  | begun polling => simp [isAsking, polling]
  | woken waiting noticed => simp [isAsking, waiting]
  | expired waiting isDue => simp [isAsking, waiting]

end Turns

theorem loopStep?_asking (asking : consumer.isAsking = true) :
    consumer.loopStep? now false broker = some (consumer.look now broker) := by
  unfold isAsking at asking
  unfold loopStep?
  split at asking
  · rename_i looking
    simp [looking]
  · rename_i looking
    simp [looking]
  · cases asking

/-- The loop moves by such a step. -/
theorem loopStep?_step
    (moved : consumer.loopStep? now cancelled broker = some (after, happenings)) :
    consumer.LoopStep now cancelled broker after happenings := by
  have asks (asking : consumer.isAsking = true)
      (looked : some (consumer.look now broker) = some (after, happenings))
      (goesOn : cancelled = false) : consumer.LoopStep now cancelled broker after happenings := by
    have step : consumer.LoopStep now cancelled broker _ _ := .asked goesOn asking
    rw [Option.some.inj looked] at step
    exact step
  unfold loopStep? at moved
  split at moved
  · rename_i stopped
    obtain ⟨cancels, isRunning⟩ := Bool.and_eq_true_iff.mp stopped
    cases moved
    exact .ended (.inl cancels) isRunning
  · rename_i unstopped
    -- A loop that can move is running, so it is not the stop that has kept it from ending.
    have goesOn (isRunning : consumer.loop.isRunning = true) : cancelled = false := by
      simpa [isRunning] using unstopped
    split at moved
    · cases moved
    · cases moved
    · cases moved
    · cases moved
    · rename_i polling
      cases moved
      exact .turned (.begun polling) (goesOn (by rw [polling]; rfl))
    · rename_i notices looking
      exact asks (by simp [isAsking, looking]) moved (goesOn (by rw [looking]; rfl))
    · rename_i looking
      exact asks (by simp [isAsking, looking]) moved (goesOn (by rw [looking]; rfl))
    · rename_i deadline notices waiting
      have unstopped := goesOn (by rw [waiting]; rfl)
      split at moved
      · rename_i woken
        cases moved
        cases notices with
        | none => cases woken
        | some seen => exact .turned (.woken waiting (by simpa using woken)) unstopped
      · split at moved
        · rename_i isDue
          cases moved
          exact .turned (.expired waiting isDue) unstopped
        · cases moved
    · rename_i message holding
      split at moved
      · rename_i nobody
        cases moved
        exact .ended (.inr ⟨message, holding, by simpa using nobody⟩) (by rw [holding]; rfl)
      · rename_i somebody
        split at moved
        · rename_i hasRoom
          cases moved
          exact .put holding (by simpa using somebody) hasRoom (goesOn (by rw [holding]; rfl))
        · cases moved

theorem not_asking_of_stuck (stuck : consumer.loopStep? now false broker = none) :
    consumer.isAsking = false := by
  cases asking : consumer.isAsking with
  | false => rfl
  | true =>
      rw [loopStep?_asking asking] at stuck
      cases stuck

end Consumer

end TopicBus
