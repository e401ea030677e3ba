import TopicBus.Bus.Run

/-!
# What a step of a task comes from

A task moves just if the instance that it belongs to can move. Each lemma takes the step of a
task of the bus back to the step of that instance.
-/

namespace TopicBus.System

variable {system after : System} {n : Nat} {events : List Event}

theorem pumpStep?_eq_some_iff :
    system.pumpStep? n = some (after, events) ↔
      ∃ publisher moved broker happenings,
        system.publishers[n]? = some publisher ∧
        publisher.pumpStep? system.now (system.isPublisherStopped publisher) system.broker =
          some (moved, broker, happenings) ∧
        after = { system.setPublisher n moved with broker := broker } ∧
        events = eventsOf (.publisher n) happenings := by
  unfold pumpStep?
  constructor
  · intro stepped
    simp only [Option.bind_eq_bind, Option.bind_eq_some_iff] at stepped
    obtain ⟨publisher, there, ⟨moved, broker, happenings⟩, moving, result⟩ := stepped
    cases result
    exact ⟨publisher, moved, broker, happenings, there, moving, rfl, rfl⟩
  · rintro ⟨publisher, moved, broker, happenings, there, moving, rfl, rfl⟩
    simp [there, moving]

theorem drainStep?_eq_some_iff :
    system.drainStep? n = some (after, events) ↔
      ∃ publisher moved happenings,
        system.publishers[n]? = some publisher ∧
        publisher.drainStep? system.now = some (moved, happenings) ∧
        after = system.setPublisher n moved ∧
        events = eventsOf (.publisher n) happenings := by
  unfold drainStep?
  constructor
  · intro stepped
    simp only [Option.bind_eq_bind, Option.bind_eq_some_iff] at stepped
    obtain ⟨publisher, there, ⟨moved, happenings⟩, moving, result⟩ := stepped
    cases result
    exact ⟨publisher, moved, happenings, there, moving, rfl, rfl⟩
  · rintro ⟨publisher, moved, happenings, there, moving, rfl, rfl⟩
    simp [there, moving]

theorem closePublisherStep?_eq_some_iff :
    system.closePublisherStep? n = some (after, events) ↔
      ∃ publisher moved happenings,
        system.publishers[n]? = some publisher ∧
        publisher.closeStep? system.now = some (moved, happenings) ∧
        after = system.setPublisher n moved ∧
        events = eventsOf (.publisher n) happenings := by
  unfold closePublisherStep?
  constructor
  · intro stepped
    simp only [Option.bind_eq_bind, Option.bind_eq_some_iff] at stepped
    obtain ⟨publisher, there, ⟨moved, happenings⟩, moving, result⟩ := stepped
    cases result
    exact ⟨publisher, moved, happenings, there, moving, rfl, rfl⟩
  · rintro ⟨publisher, moved, happenings, there, moving, rfl, rfl⟩
    simp [there, moving]

theorem loopStep?_eq_some_iff :
    system.loopStep? n = some (after, events) ↔
      ∃ consumer moved happenings,
        system.consumers[n]? = some consumer ∧
        consumer.loopStep? system.now (system.isConsumerStopped consumer) system.broker =
          some (moved, happenings) ∧
        after = system.setConsumer n moved ∧
        events = eventsOf (.consumer n) happenings := by
  unfold loopStep?
  constructor
  · intro stepped
    simp only [Option.bind_eq_bind, Option.bind_eq_some_iff] at stepped
    obtain ⟨consumer, there, ⟨moved, happenings⟩, moving, result⟩ := stepped
    cases result
    exact ⟨consumer, moved, happenings, there, moving, rfl, rfl⟩
  · rintro ⟨consumer, moved, happenings, there, moving, rfl, rfl⟩
    simp [there, moving]

theorem closeConsumerStep?_eq_some_iff :
    system.closeConsumerStep? n = some (after, events) ↔
      ∃ consumer moved,
        system.consumers[n]? = some consumer ∧
        consumer.closeStep? = some moved ∧
        after = system.setConsumer n moved ∧ events = [] := by
  unfold closeConsumerStep?
  constructor
  · intro stepped
    simp only [Option.bind_eq_bind, Option.bind_eq_some_iff] at stepped
    obtain ⟨consumer, there, moved, moving, result⟩ := stepped
    cases result
    exact ⟨consumer, moved, there, moving, rfl, rfl⟩
  · rintro ⟨consumer, moved, there, moving, rfl, rfl⟩
    simp [there, moving]

theorem notifyStep?_eq_some_iff :
    system.notifyStep? = some (after, events) ↔
      0 < system.broker.owed ∧ after = { system with broker := system.broker.notify } ∧
        events = [] := by
  unfold notifyStep?
  split
  · rename_i owes
    simp [owes, eq_comm]
  · rename_i owesNothing
    simp [owesNothing]

/-! ## Where no task can move -/

theorem IsQuiet.loopStep?_eq_none (quiet : system.IsQuiet) {consumer : Consumer}
    (there : system.consumers[n]? = some consumer) :
    consumer.loopStep? system.now (system.isConsumerStopped consumer) system.broker = none := by
  have unmoved := quiet (.pollLoop n)
  cases moving : consumer.loopStep? system.now (system.isConsumerStopped consumer)
      system.broker with
  | none => rfl
  | some moved =>
      rw [step?, loopStep?_eq_some_iff.mpr ⟨_, _, _, there, moving, rfl, rfl⟩] at unmoved
      cases unmoved

theorem IsQuiet.owed_eq_zero (quiet : system.IsQuiet) : system.broker.owed = 0 := by
  refine Nat.eq_zero_of_not_pos fun owes => ?_
  have unmoved := quiet .notify
  rw [step?, notifyStep?_eq_some_iff.mpr ⟨owes, rfl, rfl⟩] at unmoved
  cases unmoved

end TopicBus.System
