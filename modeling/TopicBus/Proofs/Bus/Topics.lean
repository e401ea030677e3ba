import TopicBus.Proofs.Bus.Identity
import TopicBus.Proofs.Bus.Pump
import TopicBus.Proofs.Registry.Bindings

/-!
# One kind of payload on a topic

The registry never binds two kinds to one name, and it never takes a binding back. So an
instance that was made for a topic stays bound to it, and all instances on one topic are for the
same kind of payload.
-/

namespace TopicBus

namespace Registry

variable {registry : Registry}

/-- Whether a topic is one of the registry. -/
def Binds (registry : Registry) (topic : Topic) : Prop :=
  registry.lookup? topic.kind = some topic.name

/-- Two topics of a registry with one name are the same. -/
theorem IsOneToOne.topic_eq (oneToOne : registry.IsOneToOne) {topic second : Topic}
    (bound : registry.Binds topic) (secondBound : registry.Binds second)
    (sameName : topic.name = second.name) : topic = second := by
  unfold Binds at bound secondBound
  rw [← sameName] at secondBound
  have sameKind := oneToOne.kind_eq bound secondBound
  cases topic
  cases second
  simp_all

end Registry

/-! ## Publishers keep their topics -/

namespace Publisher

variable {publisher after : Publisher} {now : Nat} {broker brokerAfter : Broker}
  {happenings : List Happening}

private theorem topic_pumpStep {cancelled : Bool}
    (moved : publisher.PumpStep now cancelled broker happenings after brokerAfter) :
    after.topic = publisher.topic := by
  cases moved with
  | stopped receiving => rfl
  | published emptying between shape publishing => cases publishing <;> rfl
  | handed reports notes handing => rfl
  | emptied emptying empty => rfl
  | flushed notes flushing => rfl

theorem Changes.topic_eq {system : System} {n : Nat} {action : Action} {reply : Reply}
    (changed : publisher.Changes system n action reply happenings after brokerAfter) :
    after.topic = publisher.topic := by
  cases changed with
  | opened opens => cases opens <;> rfl
  | sent sameKind taken | reserved given | filled sameKind placed | outboxDropped => rfl
  | closeBegun isHeld first =>
      obtain ⟨sink, stopped, closing, begun⟩ := publisher.beginClose_spares system.now
      rw [begun]
  | dropped => rfl
  | callsTaken scripted => rfl
  | flushReleased =>
      unfold releaseFlush
      split
      · rfl
      · rfl
  | pumped moved => exact topic_pumpStep (pumpStep?_step moved)
  | drained moved =>
      obtain ⟨reports, drain, notes, rfl, _⟩ := drainStep?_reports moved
      rfl
  | closeStepped moved => cases closeStep?_step moved <;> rfl

end Publisher

/-! ## Instances on a bus -/

namespace System

/-- The registry is one to one, and every instance is for one of its topics. -/
structure HasTopics (system : System) : Prop where
  oneToOne : system.registry.IsOneToOne
  publishers : ∀ {n : Nat} {publisher : Publisher}, system.publishers[n]? = some publisher →
    system.registry.Binds publisher.topic
  consumers : ∀ {n : Nat} {consumer : Consumer}, system.consumers[n]? = some consumer →
    system.registry.Binds consumer.topic

theorem hasTopics_empty : (ofRegistry .empty).HasTopics where
  oneToOne := Registry.isOneToOne_empty
  publishers there := by cases there
  consumers there := by cases there

variable {system : System}

theorem publisher_next {n : Nat} {publisher : Publisher}
    (there : system.publishers[n]? = some publisher) (action : Action) :
    ∃ after, (system.next action).publishers[n]? = some after ∧ after.topic = publisher.topic := by
  rcases (system.act_effect action).publisher_frame there with
    ⟨moved, found, changed⟩ | ⟨found, _, _⟩
  · exact ⟨moved, found, changed.topic_eq⟩
  · exact ⟨publisher, found, rfl⟩

private theorem binds_ofOutlet {registry : Registry} {kind : Payload.Kind} {outlet : Outlet}
    {scope : String} {made : Publisher}
    (making : Publisher.ofOutlet registry kind outlet scope = .ok made) :
    registry.Binds made.topic := by
  unfold Publisher.ofOutlet at making
  split at making
  · cases making
  · split at making
    · cases making
    · rename_i topic bound
      cases making
      obtain ⟨found, sameKind⟩ := Registry.topic_eq_ok_iff.mp bound
      rw [← sameKind] at found
      exact found

private theorem binds_ofInlet {registry : Registry} {kind : Payload.Kind} {inlet : Inlet}
    {scope : String} {made : Consumer}
    (making : Consumer.ofInlet registry kind inlet scope = .ok made) :
    registry.Binds made.topic := by
  unfold Consumer.ofInlet at making
  split at making
  · cases making
  · split at making
    · cases making
    · rename_i topic bound
      cases making
      obtain ⟨found, sameKind⟩ := Registry.topic_eq_ok_iff.mp bound
      rw [← sameKind] at found
      exact found

theorem binds_next {topic : Topic} (bound : system.registry.Binds topic) (action : Action) :
    (system.next action).registry.Binds topic := by
  rcases (system.act_effect action).registry_frame with same | ⟨kind, name, rfl, registered⟩
  · rw [same]
    exact bound
  · rw [registered]
    exact Registry.lookup?_register_of_some bound kind name

theorem HasTopics.next (topics : system.HasTopics) (action : Action) :
    (system.next action).HasTopics := by
  have effect := system.act_effect action
  refine ⟨?_, ?_, ?_⟩
  · rcases effect.registry_frame with same | ⟨kind, name, _, registered⟩
    · rw [same]
      exact topics.oneToOne
    · rw [registered]
      exact Registry.isOneToOne_register topics.oneToOne kind name
  · intro n publisher there
    cases before : system.publishers[n]? with
    | none =>
        obtain ⟨kind, outlet, scope, rfl, making⟩ := effect.publisher_origin before there
        exact binds_next (binds_ofOutlet making) _
    | some old =>
        obtain ⟨after, found, sameTopic⟩ := publisher_next before action
        obtain rfl : after = publisher := Option.some.inj (found.symm.trans there)
        rw [sameTopic]
        exact binds_next (topics.publishers before) action
  · intro n consumer there
    cases before : system.consumers[n]? with
    | none =>
        obtain ⟨kind, inlet, scope, rfl, _, making⟩ := effect.consumer_origin before there
        exact binds_next (binds_ofInlet making) _
    | some old =>
        obtain ⟨after, found, sameTopic, _⟩ := consumer_next before action
        obtain rfl : after = consumer := Option.some.inj (found.symm.trans there)
        rw [sameTopic]
        exact binds_next (topics.consumers before) action

theorem HasTopics.after (topics : system.HasTopics) (actions : List Action) :
    (system.after actions).HasTopics :=
  after_of_next HasTopics (fun _ action topics => topics.next action) topics actions

end System

end TopicBus
