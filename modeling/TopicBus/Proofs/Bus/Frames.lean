import TopicBus.Proofs.Bus.Effects

/-!
# What an action leaves alone

An action changes the instance that it is done to and leaves every other one as it was,
silently. So the history of one instance is a list of its own changes, with a broker that may
have changed in between. Instances are never taken away, and a new one stands behind all others.
-/

namespace TopicBus

/-- The message that is put into the outbox of a publisher by an action with the reply to it. -/
def acceptedIn (n : Nat) (action : Action) (reply : Reply) : Option Message :=
  match action, reply with
  | .send m message, .sent .accepted | .fill m message, .sent .accepted =>
      if m = n then some message else none
  | _, _ => none

/-- What is not answered by an acceptance puts no message into an outbox. -/
theorem acceptedIn_eq_none {action : Action} {reply : Reply} (unsent : reply ≠ .sent .accepted)
    (n : Nat) : acceptedIn n action reply = none := by
  unfold acceptedIn
  split
  · exact absurd rfl unsent
  · exact absurd rfl unsent
  · rfl

theorem acceptedIn_fill_of_ne {m n : Nat} (different : m ≠ n) (message : Message) (reply : Reply) :
    acceptedIn n (.fill m message) reply = none := by
  cases reply with
  | sent sent =>
      cases sent with
      | accepted => exact if_neg different
      | full | closed => rfl
  | _ => rfl

namespace System

variable {system after : System} {action : Action} {reply : Reply} {events : List Event} {n : Nat}

private theorem getElem?_set_there {α : Type} {members : List α} {before member : α}
    (found : members[n]? = some before) : (members.set n member)[n]? = some member := by
  obtain ⟨inside, _⟩ := List.getElem?_eq_some_iff.mp found
  exact List.getElem?_set_self inside

private theorem getElem?_set_absent {α : Type} {members : List α} {m : Nat} {member : α}
    (absent : members[n]? = none) : (members.set m member)[n]? = none := by
  rw [List.getElem?_eq_none_iff] at absent ⊢
  rw [List.length_set]
  exact absent

private theorem getElem?_append_there {α : Type} {members : List α} {before : α} (added : α)
    (found : members[n]? = some before) : (members ++ [added])[n]? = some before := by
  obtain ⟨inside, same⟩ := List.getElem?_eq_some_iff.mp found
  rw [List.getElem?_append_left inside, found]

private theorem getElem?_append_new {α : Type} {members : List α} {added member : α}
    (absent : members[n]? = none) (found : (members ++ [added])[n]? = some member) :
    n = members.length ∧ added = member := by
  have beyond := List.getElem?_eq_none_iff.mp absent
  obtain ⟨inside, same⟩ := List.getElem?_eq_some_iff.mp found
  simp only [List.length_append, List.length_singleton] at inside
  obtain rfl : n = members.length := by omega
  refine ⟨rfl, ?_⟩
  simpa using same

/-! ## Consumers -/

/-- All consumers are left alone, one of them is changed, or one more is made. -/
private theorem Effect.consumers_cases (effect : system.Effect action reply after events) :
    (after.consumers = system.consumers ∧ (∀ n, happeningsOf (.consumer n) events = []) ∧
        ∀ n consumer, action = .step (.pollLoop n) → system.consumers[n]? = some consumer →
          consumer.loopStep? system.now (system.isConsumerStopped consumer) system.broker =
            none) ∨
      (∃ m before moved happenings, system.consumers[m]? = some before ∧
        after.consumers = system.consumers.set m moved ∧
        events = eventsOf (.consumer m) happenings ∧
        Consumer.Changes system m before action reply happenings moved after.broker) ∨
      ∃ kind inlet scope made, action = .addConsumer kind inlet scope ∧
        after.consumers = system.consumers ++ [made] ∧ events = [] ∧
        Consumer.ofInlet system.registry kind inlet scope = .ok made := by
  cases effect with
  | idle unsent unmoved => exact .inl ⟨rfl, fun _ => rfl, fun _ _ turn => unmoved turn⟩
  | publisher found changed =>
      refine .inl ⟨rfl, fun _ => happeningsOf_eventsOf_of_ne (by simp) _, ?_⟩
      rintro n consumer rfl
      cases changed
  | consumer found changed => exact .inr (.inl ⟨_, _, _, _, found, rfl, rfl, changed⟩)
  | client found changed =>
      refine .inl ⟨rfl, fun _ => rfl, ?_⟩
      rintro n consumer rfl
      cases changed
  | registered kind name replied => exact .inl ⟨rfl, fun _ => rfl, by simp⟩
  | publisherAdded making => exact .inl ⟨rfl, fun _ => rfl, by simp⟩
  | consumerAdded making => exact .inr (.inr ⟨_, _, _, _, rfl, rfl, rfl, making⟩)
  | clientAdded settings => exact .inl ⟨rfl, fun _ => rfl, by simp⟩
  | appended topic key payload =>
      exact .inl ⟨rfl, fun _ => happeningsOf_cons_of_ne (by simp) _ _, by simp⟩
  | enqueued outbound =>
      exact .inl ⟨rfl, fun _ => happeningsOf_cons_of_ne (by simp) _ _, by simp⟩
  | pollsFailed reason => exact .inl ⟨rfl, fun _ => rfl, by simp⟩
  | notified owes => exact .inl ⟨rfl, fun _ => rfl, by simp⟩
  | scopeCancelled scope => exact .inl ⟨rfl, fun _ => rfl, by simp⟩
  | passed milliseconds => exact .inl ⟨rfl, fun _ => rfl, by simp⟩

/-- A consumer is changed, or it is left alone and could not have moved by itself. -/
theorem Effect.consumer_frame (effect : system.Effect action reply after events)
    {consumer : Consumer} (there : system.consumers[n]? = some consumer) :
    (∃ moved, after.consumers[n]? = some moved ∧
        consumer.Changes system n action reply (happeningsOf (.consumer n) events) moved
          after.broker) ∨
      (after.consumers[n]? = some consumer ∧ happeningsOf (.consumer n) events = [] ∧
        (action = .step (.pollLoop n) →
          consumer.loopStep? system.now (system.isConsumerStopped consumer) system.broker =
            none)) := by
  rcases effect.consumers_cases with ⟨same, silent, stuck⟩ |
    ⟨m, before, moved, happenings, found, changedTo, rfl, changed⟩ |
    ⟨kind, inlet, scope, made, rfl, added, rfl, making⟩
  · rw [same]
    exact .inr ⟨there, silent n, fun turn => stuck n consumer turn there⟩
  · rw [changedTo]
    by_cases same : m = n
    · subst same
      rw [there] at found
      cases found
      refine .inl ⟨moved, getElem?_set_there there, ?_⟩
      rw [happeningsOf_eventsOf]
      exact changed
    · refine .inr ⟨?_, happeningsOf_eventsOf_of_ne (by simpa using same) _, ?_⟩
      · rw [List.getElem?_set_ne same]
        exact there
      · rintro rfl
        generalize after.broker = broker at changed
        cases changed
        exact absurd rfl same
  · rw [added]
    exact .inr ⟨getElem?_append_there made there, rfl, by simp⟩

theorem Effect.consumer_origin (effect : system.Effect action reply after events)
    {consumer : Consumer} (absent : system.consumers[n]? = none)
    (there : after.consumers[n]? = some consumer) :
    ∃ kind inlet scope, action = .addConsumer kind inlet scope ∧ n = system.consumers.length ∧
      Consumer.ofInlet system.registry kind inlet scope = .ok consumer := by
  rcases effect.consumers_cases with ⟨same, _, _⟩ |
    ⟨m, before, moved, happenings, found, changedTo, rfl, changed⟩ |
    ⟨kind, inlet, scope, made, rfl, added, rfl, making⟩
  · rw [same, absent] at there
    cases there
  · rw [changedTo, getElem?_set_absent absent] at there
    cases there
  · rw [added] at there
    obtain ⟨place, rfl⟩ := getElem?_append_new absent there
    exact ⟨kind, inlet, scope, rfl, place, making⟩

theorem Effect.consumer_silent (effect : system.Effect action reply after events)
    (absent : system.consumers[n]? = none) : happeningsOf (.consumer n) events = [] := by
  rcases effect.consumers_cases with ⟨_, silent, _⟩ |
    ⟨m, before, moved, happenings, found, changedTo, rfl, changed⟩ |
    ⟨kind, inlet, scope, made, rfl, added, rfl, making⟩
  · exact silent n
  · apply happeningsOf_eventsOf_of_ne
    intro same
    cases same
    rw [absent] at found
    cases found
  · rfl

/-! ## Publishers -/

/-- All publishers are left alone, one of them is changed, or one more is made. -/
private theorem Effect.publishers_cases (effect : system.Effect action reply after events) :
    (after.publishers = system.publishers ∧ (∀ n, happeningsOf (.publisher n) events = []) ∧
        ∀ n, acceptedIn n action reply = none) ∨
      (∃ m before moved happenings, system.publishers[m]? = some before ∧
        after.publishers = system.publishers.set m moved ∧
        events = eventsOf (.publisher m) happenings ∧
        Publisher.Changes system m before action reply happenings moved after.broker) ∨
      ∃ kind outlet scope made, action = .addPublisher kind outlet scope ∧
        after.publishers = system.publishers ++ [made] ∧ events = [] ∧
        Publisher.ofOutlet system.registry kind outlet scope = .ok made := by
  cases effect with
  | idle unsent unmoved => exact .inl ⟨rfl, fun _ => rfl, acceptedIn_eq_none unsent⟩
  | publisher found changed => exact .inr (.inl ⟨_, _, _, _, found, rfl, rfl, changed⟩)
  | consumer found changed =>
      refine .inl ⟨rfl, fun _ => happeningsOf_eventsOf_of_ne (by simp) _, fun n => ?_⟩
      cases changed <;> rfl
  | client found changed =>
      refine .inl ⟨rfl, fun _ => rfl, fun n => ?_⟩
      cases changed <;> rfl
  | registered kind name replied => exact .inl ⟨rfl, fun _ => rfl, fun _ => rfl⟩
  | publisherAdded making => exact .inr (.inr ⟨_, _, _, _, rfl, rfl, rfl, making⟩)
  | consumerAdded making => exact .inl ⟨rfl, fun _ => rfl, fun _ => rfl⟩
  | clientAdded settings => exact .inl ⟨rfl, fun _ => rfl, fun _ => rfl⟩
  | appended topic key payload =>
      exact .inl ⟨rfl, fun _ => happeningsOf_cons_of_ne (by simp) _ _, fun _ => rfl⟩
  | enqueued outbound =>
      exact .inl ⟨rfl, fun _ => happeningsOf_cons_of_ne (by simp) _ _, fun _ => rfl⟩
  | pollsFailed reason => exact .inl ⟨rfl, fun _ => rfl, fun _ => rfl⟩
  | notified owes => exact .inl ⟨rfl, fun _ => rfl, fun _ => rfl⟩
  | scopeCancelled scope => exact .inl ⟨rfl, fun _ => rfl, fun _ => rfl⟩
  | passed milliseconds => exact .inl ⟨rfl, fun _ => rfl, fun _ => rfl⟩

/-- A publisher is changed, or it is left alone and has taken no message. -/
theorem Effect.publisher_frame (effect : system.Effect action reply after events)
    {publisher : Publisher} (there : system.publishers[n]? = some publisher) :
    (∃ moved, after.publishers[n]? = some moved ∧
        publisher.Changes system n action reply (happeningsOf (.publisher n) events) moved
          after.broker) ∨
      (after.publishers[n]? = some publisher ∧ happeningsOf (.publisher n) events = [] ∧
        acceptedIn n action reply = none) := by
  rcases effect.publishers_cases with ⟨same, silent, unsent⟩ |
    ⟨m, before, moved, happenings, found, changedTo, rfl, changed⟩ |
    ⟨kind, outlet, scope, made, rfl, added, rfl, making⟩
  · rw [same]
    exact .inr ⟨there, silent n, unsent n⟩
  · rw [changedTo]
    by_cases same : m = n
    · subst same
      rw [there] at found
      cases found
      refine .inl ⟨moved, getElem?_set_there there, ?_⟩
      rw [happeningsOf_eventsOf]
      exact changed
    · refine .inr ⟨?_, happeningsOf_eventsOf_of_ne (by simpa using same) _, ?_⟩
      · rw [List.getElem?_set_ne same]
        exact there
      · generalize after.broker = broker at changed
        cases changed with
        | sent sameKind taken => exact if_neg same
        | filled sameKind placed => exact if_neg same
        | _ => rfl
  · rw [added]
    exact .inr ⟨getElem?_append_there made there, rfl, rfl⟩

theorem Effect.publisher_origin (effect : system.Effect action reply after events)
    {publisher : Publisher} (absent : system.publishers[n]? = none)
    (there : after.publishers[n]? = some publisher) :
    ∃ kind outlet scope, action = .addPublisher kind outlet scope ∧
      Publisher.ofOutlet system.registry kind outlet scope = .ok publisher := by
  rcases effect.publishers_cases with ⟨same, _, _⟩ |
    ⟨m, before, moved, happenings, found, changedTo, rfl, changed⟩ |
    ⟨kind, outlet, scope, made, rfl, added, rfl, making⟩
  · rw [same, absent] at there
    cases there
  · rw [changedTo, getElem?_set_absent absent] at there
    cases there
  · rw [added] at there
    obtain ⟨_, rfl⟩ := getElem?_append_new absent there
    exact ⟨kind, outlet, scope, rfl, making⟩

/-! ## The registry -/

theorem Effect.registry_frame (effect : system.Effect action reply after events) :
    after.registry = system.registry ∨
      ∃ kind name, action = .register kind name ∧
        after.registry = (system.registry.register kind name).2 := by
  cases effect with
  | registered kind name replied => exact .inr ⟨kind, name, rfl, rfl⟩
  | idle unsent unmoved => exact .inl rfl
  | publisher found changed => exact .inl rfl
  | consumer found changed => exact .inl rfl
  | client found changed => exact .inl rfl
  | publisherAdded making => exact .inl rfl
  | consumerAdded making => exact .inl rfl
  | clientAdded settings => exact .inl rfl
  | appended topic key payload => exact .inl rfl
  | enqueued outbound => exact .inl rfl
  | pollsFailed reason => exact .inl rfl
  | notified owes => exact .inl rfl
  | scopeCancelled scope => exact .inl rfl
  | passed milliseconds => exact .inl rfl

end System

end TopicBus
