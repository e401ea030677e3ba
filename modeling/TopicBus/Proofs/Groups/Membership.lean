import TopicBus.Proofs.Delivery.Following

/-!
# Groups are for good

A consumer or a client is in the group that it was made for as long as it lives, or it never is
in any.
-/

namespace TopicBus

theorem Client.Changes.group_eq {system : System} {n : Nat} {client after : Client}
    {action : Action} {reply : Reply} {broker : Broker}
    (changed : client.Changes system n action reply after broker) : after.group = client.group := by
  cases changed with
  | subscribed topic =>
      unfold Client.subscribe
      split <;> rfl
  | fetched =>
      unfold Client.next
      split
      · rfl
      · split
        · rfl
        · split
          · rfl
          · split <;> rfl
  | committed token => rfl
  | closed => rfl

namespace System

variable {system later : System} {n : Nat}

theorem consumer_group_next (readers : system.ReadersFollow) {consumer : Consumer}
    (there : system.consumers[n]? = some consumer) (action : Action) :
    ∃ after, (system.next action).consumers[n]? = some after ∧
      after.source.group? = consumer.source.group? := by
  obtain ⟨after, found, akin⟩ := consumer_next there action
  refine ⟨after, found, ?_⟩
  cases memory : consumer.source.isMemory with
  | true =>
      obtain ⟨client, source⟩ := Source.isMemory_iff.mp memory
      obtain ⟨settings, polled, follows⟩ := readers there source
      obtain ⟨moved, clientAfter, foundAfter, followsAfter⟩ :=
        HasFollower.next ⟨consumer, client, there, follows⟩ action
      obtain rfl : moved = after := Option.some.inj (foundAfter.symm.trans found)
      rw [source, followsAfter.memory]
      exact followsAfter.group.trans follows.group.symm
  | false =>
      have ungrouped (source : Source) (remote : source.isMemory = false) :
          source.group? = none := by
        cases source with
        | memory client => cases remote
        | scripted script | remote other => rfl
      rw [ungrouped _ memory, ungrouped _ (akin.2.trans memory)]

theorem client_group_next {client : Client} (there : system.clients[n]? = some client)
    (action : Action) :
    ∃ after, (system.next action).clients[n]? = some after ∧ after.group = client.group := by
  have effect := system.act_effect action
  generalize system.next action = after at effect ⊢
  generalize (system.act action).1 = reply at effect
  generalize (system.act action).2.2 = events at effect
  cases effect with
  | @client action reply m before moved broker found changed =>
      by_cases same : m = n
      · subst same
        obtain rfl : before = client := Option.some.inj (found.symm.trans there)
        obtain ⟨inside, _⟩ := List.getElem?_eq_some_iff.mp there
        exact ⟨moved, List.getElem?_set_self inside, changed.group_eq⟩
      · exact ⟨client, (List.getElem?_set_ne same).trans there, rfl⟩
  | clientAdded settings =>
      obtain ⟨inside, _⟩ := List.getElem?_eq_some_iff.mp there
      exact ⟨client, (List.getElem?_append_left inside).trans there, rfl⟩
  | idle unsent unmoved => exact ⟨client, there, rfl⟩
  | publisher found changed => exact ⟨client, there, rfl⟩
  | consumer found changed => exact ⟨client, there, rfl⟩
  | registered kind name replied => exact ⟨client, there, rfl⟩
  | publisherAdded making => exact ⟨client, there, rfl⟩
  | consumerAdded making => exact ⟨client, there, rfl⟩
  | appended topic key payload => exact ⟨client, there, rfl⟩
  | enqueued outbound => exact ⟨client, there, rfl⟩
  | pollsFailed reason => exact ⟨client, there, rfl⟩
  | notified owes => exact ⟨client, there, rfl⟩
  | scopeCancelled scope => exact ⟨client, there, rfl⟩
  | passed milliseconds => exact ⟨client, there, rfl⟩

/-- Whoever is on a bus is in the same group on a later one. -/
structure KeepsGroups (system later : System) : Prop where
  consumer : ∀ ⦃n : Nat⦄ ⦃consumer : Consumer⦄, system.consumers[n]? = some consumer →
    ∃ after, later.consumers[n]? = some after ∧ after.source.group? = consumer.source.group?
  client : ∀ ⦃n : Nat⦄ ⦃client : Client⦄, system.clients[n]? = some client →
    ∃ after, later.clients[n]? = some after ∧ after.group = client.group

theorem keepsGroups_next (readers : system.ReadersFollow) (action : Action) :
    system.KeepsGroups (system.next action) where
  consumer _ _ there := consumer_group_next readers there action
  client _ _ there := client_group_next there action

theorem KeepsGroups.trans {last : System} (first : system.KeepsGroups later)
    (second : later.KeepsGroups last) : system.KeepsGroups last where
  consumer n consumer there := by
    obtain ⟨between, found, same⟩ := first.consumer there
    obtain ⟨after, foundAfter, sameAfter⟩ := second.consumer found
    exact ⟨after, foundAfter, sameAfter.trans same⟩
  client n client there := by
    obtain ⟨between, found, same⟩ := first.client there
    obtain ⟨after, foundAfter, sameAfter⟩ := second.client found
    exact ⟨after, foundAfter, sameAfter.trans same⟩

theorem keepsGroups_after (readers : system.ReadersFollow) (actions : List Action) :
    system.KeepsGroups (system.after actions) := by
  induction actions generalizing system with
  | nil => exact ⟨fun _ consumer there => ⟨consumer, there, rfl⟩,
      fun _ client there => ⟨client, there, rfl⟩⟩
  | cons action rest inductionHypothesis =>
      apply (keepsGroups_next readers action).trans
      exact inductionHypothesis (readers.next action)

end System

end TopicBus
