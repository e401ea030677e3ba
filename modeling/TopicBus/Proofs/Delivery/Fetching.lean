import TopicBus.Proofs.Delivery.Following

/-!
# What a consumer fetches

A consumer of the broker inside the process fetches nothing but records of its own topic, and it
leaves a note about a record just if there is no message in it. What it has fetched at any time
stands in the log at the end of the run. Whatever is to be shown of all the records that a
consumer fetches in a run has to be shown for its single changes only.
-/

namespace TopicBus

/-! ## Fetched records -/

/-- The record that a happening has fetched, if it has. -/
def Happening.fetched? : Happening → Option Record
  | .fetched record => some record
  | _ => none

/-- The records that some happenings have fetched, in order. -/
def fetchedOf (happenings : List Happening) : List Record :=
  happenings.filterMap Happening.fetched?

@[simp]
theorem fetchedOf_nil : fetchedOf [] = [] :=
  rfl

@[simp]
theorem fetchedOf_append (first second : List Happening) :
    fetchedOf (first ++ second) = fetchedOf first ++ fetchedOf second :=
  List.filterMap_append

theorem fetchedOf_cons_notes (record : Record) (notes : List Note) :
    fetchedOf (.fetched record :: notes.map .noted) = [record] := by
  have silent : fetchedOf (notes.map .noted) = [] := by
    simp [fetchedOf, Happening.fetched?, List.filterMap_map, Function.comp_def]
  exact congrArg (record :: ·) silent

/-! ## Whose records are fetched -/

/-- What a consumer does with the record at an offset of its topic: it fetches the record, or it
leaves a note that there is no message in it. -/
inductive Topic.Handles (topic : Topic) (broker : Broker) : Happening → Prop
  | fetched {offset : Nat} {stored : Stored}
      (found : (broker.log topic.name)[offset]? = some stored) :
      Handles topic broker (.fetched (stored.toRecord ⟨topic.name, 0, offset⟩))
  | skipped {offset : Nat} {stored : Stored} {note : Note}
      (found : (broker.log topic.name)[offset]? = some stored)
      (skips : topic.skipNote? offset stored = some note) : Handles topic broker (.noted note)
  /-- A poll has failed, and there is no record. -/
  | failed (fault : Fault) : Handles topic broker (.noted (.pollFailed topic.name fault))

theorem Topic.Handles.grow {topic : Topic} {broker after : Broker} {happening : Happening}
    (handles : topic.Handles broker happening)
    (grown : broker.log topic.name <+: after.log topic.name) :
    topic.Handles after happening := by
  cases handles with
  | fetched found => exact .fetched (Broker.found_of_grown grown found)
  | skipped found skips => exact .skipped (Broker.found_of_grown grown found) skips
  | failed fault => exact .failed fault

namespace Consumer

variable {settings : Settings.Consumer} {topic : Topic} {consumer after : Consumer}
  {client : Client} {polled : Option Broker} {happenings : List Happening} {happening : Happening}

private theorem PollOf.handles {now : Nat} {broker : Broker}
    (polling : consumer.PollOf client now broker after happenings)
    (member : happening ∈ happenings) : consumer.topic.Handles broker happening := by
  cases polling with
  | broken failure =>
      cases List.mem_singleton.mp member
      exact .failed _
  | unplaced works nowhere =>
      cases List.mem_singleton.mp member
      exact .failed _
  | idle works next nothing => cases member
  | fetched works next found =>
      rcases List.mem_cons.mp member with rfl | later
      · exact .fetched found
      · obtain ⟨note, skips, rfl⟩ := List.mem_map.mp later
        exact .skipped found (Option.mem_toList.mp skips)

theorem Changes.handles {system : System} {n : Nat} {action : Action} {reply : Reply}
    {brokerAfter : Broker}
    (changed : consumer.Changes system n action reply happenings after brokerAfter)
    (follows : consumer.Follows settings topic client system.broker polled)
    (member : happening ∈ happenings) : consumer.topic.Handles system.broker happening := by
  cases changed with
  | looped moved =>
      cases loopStep?_step moved with
      | ended reason isRunning => cases member
      | turned turns goesOn => cases member
      | asked goesOn asking => exact (follows.pollOf asking).handles member
      | put holds hasReceiver hasRoom goesOn => cases member
  | opened opens | received canReceive taken | inboxClosed canReceive | inboxDropped
  | closeBegun isHeld first | dropped
  | committed done | acked done | revised scripted | callsTaken scripted | closeStepped moved =>
      cases member

/-! ## What a close leaves alone -/

/-- A consumer of the broker may be told to stop, and its client may leave the subscription,
while all that concerns its records stays as it is. -/
structure Closes (consumer : Consumer) (client : Client) (after : Consumer) (clientAfter : Client) :
    Prop where
  memory : after.source = .memory clientAfter
  position : clientAfter.position = client.position
  fetched : clientAfter.fetched = client.fetched
  unchanged : ∃ stopped closing, (consumer.stopped = true → stopped = true) ∧
    after = { consumer with source := .memory clientAfter, stopped := stopped, closing := closing }

private theorem closes_of_stopping {stopped : Bool} {closing : Closing}
    (memory : consumer.source = .memory client) (stops : consumer.stopped = true → stopped = true) :
    consumer.Closes client { consumer with stopped := stopped, closing := closing } client := by
  refine ⟨memory, rfl, rfl, stopped, closing, stops, ?_⟩
  rw [← memory]

private theorem closes_finishClose {stopped : Bool}
    (memory : consumer.source = .memory client) (stops : consumer.stopped = true → stopped = true) :
    consumer.Closes client { consumer with stopped := stopped }.finishClose client.close := by
  have left : { consumer with stopped := stopped }.finishClose =
      { consumer with
        source := .memory client.close
        stopped := stopped
        closing := .done (.ok ()) } := by
    simp only [finishClose, memory, Source.close]
  rw [left]
  exact ⟨rfl, rfl, rfl, stopped, _, stops, rfl⟩

theorem closes_beginClose (memory : consumer.source = .memory client) (now : Nat) :
    ∃ clientAfter, consumer.Closes client (consumer.beginClose now) clientAfter := by
  unfold Consumer.beginClose
  split
  · by_cases hasLoop : Consumer.hasLoop { consumer with stopped := true } = true
    · rw [if_pos hasLoop]
      exact ⟨client, closes_of_stopping memory fun _ => rfl⟩
    · rw [if_neg hasLoop]
      exact ⟨client.close, closes_finishClose memory fun _ => rfl⟩
  · exact ⟨client, closes_of_stopping memory id⟩

theorem closes_closeStep? (memory : consumer.source = .memory client)
    (moved : consumer.closeStep? = some after) :
    ∃ clientAfter, consumer.Closes client after clientAfter := by
  unfold closeStep? at moved
  split at moved
  · cases moved
    exact ⟨client.close, closes_finishClose memory id⟩
  · cases moved
    exact ⟨client, closes_of_stopping memory id⟩
  · cases moved

end Consumer

namespace System

variable {system : System} {n : Nat} {consumer : Consumer}

/-- Whatever a consumer of the broker does along a run is done with the records of its topic. -/
theorem handles_of_event (readers : system.ReadersFollow) {actions : List Action}
    {client : Client} {happening : Happening}
    (event : ⟨.consumer n, happening⟩ ∈ system.events actions)
    (there : (system.after actions).consumers[n]? = some consumer)
    (memory : consumer.source = .memory client) :
    consumer.topic.Handles (system.after actions).broker happening := by
  induction actions generalizing system with
  | nil => cases event
  | cons action rest inductionHypothesis =>
      rw [events_cons] at event
      rcases List.mem_append.mp event with now | later
      · have effect := system.act_effect action
        have done := mem_happeningsOf_iff.mpr now
        cases before : system.consumers[n]? with
        | none =>
            rw [effect.consumer_silent before] at done
            cases done
        | some old =>
            rcases effect.consumer_frame before with ⟨moved, found, changed⟩ | ⟨_, silent, _⟩
            -- The consumer of now is the one at the end, on the same topic, and the log has
            -- only grown since.
            · obtain ⟨after, thereAfter, akin⟩ := consumer_after before (action :: rest)
              obtain rfl : after = consumer := Option.some.inj (thereAfter.symm.trans there)
              obtain ⟨oldClient, oldMemory⟩ := akin.exists_client memory
              obtain ⟨settings, polled, follows⟩ := readers before oldMemory
              have handles := changed.handles follows done
              rw [akin.1]
              exact handles.grow (system.log_grows_after (action :: rest) old.topic.name)
            · rw [silent] at done
              cases done
      · exact inductionHypothesis (readers.next action) later there

/-! ## What is kept about fetched records -/

/-- The consumer with a number follows a topic, and something holds of it and of the records
that it has fetched. -/
def HasFetched (Holds : System → Consumer → Client → Option Broker → List Record → Prop)
    (system : System) (n : Nat) (settings : Settings.Consumer) (topic : Topic)
    (polled : Option Broker) (records : List Record) : Prop :=
  ∃ consumer client, system.consumers[n]? = some consumer ∧
    consumer.Follows settings topic client system.broker polled ∧
    Holds system consumer client polled records

/-- What holds of a consumer and of the records that it has fetched is kept by its own changes
and by what is done to others. -/
structure KeptByFetching (n : Nat) (settings : Settings.Consumer) (topic : Topic)
    (Holds : System → Consumer → Client → Option Broker → List Record → Prop) : Prop where
  changed : ∀ {system : System} {action : Action} {reply : Reply} {happenings : List Happening}
    {consumer after : Consumer} {client : Client} {polled : Option Broker} {records : List Record},
    system.consumers[n]? = some consumer →
    consumer.Follows settings topic client system.broker polled →
    consumer.Changes system n action reply happenings after (system.next action).broker →
    Holds system consumer client polled records →
      ∃ clientAfter, after.source = .memory clientAfter ∧
        Holds (system.next action) after clientAfter (polled.or (system.polled? n action))
          (records ++ fetchedOf happenings)
  left : ∀ {system : System} (action : Action) {consumer : Consumer} {client : Client}
    {polled : Option Broker} {records : List Record},
    consumer.topic = topic → Holds system consumer client polled records →
      Holds (system.next action) consumer client polled records

variable {settings : Settings.Consumer} {topic : Topic} {polled : Option Broker}
  {records : List Record}
  {Holds : System → Consumer → Client → Option Broker → List Record → Prop}

private theorem HasFetched.next (kept : KeptByFetching n settings topic Holds)
    (fetched : HasFetched Holds system n settings topic polled records) (action : Action) :
    HasFetched Holds (system.next action) n settings topic (polled.or (system.polled? n action))
      (records ++ fetchedOf (happeningsOf (.consumer n) (system.act action).2.2)) := by
  obtain ⟨consumer, client, there, follows, holds⟩ := fetched
  obtain ⟨moved, movedClient, found, followsAfter⟩ :=
    HasFollower.next ⟨consumer, client, there, follows⟩ action
  refine ⟨moved, movedClient, found, followsAfter, ?_⟩
  rcases (system.act_effect action).consumer_frame there with
    ⟨changedTo, thereAfter, changed⟩ | ⟨same, silent, stuck⟩
  · rw [found] at thereAfter
    cases thereAfter
    obtain ⟨clientAfter, memory, holdsAfter⟩ := kept.changed there follows changed holds
    rw [followsAfter.memory] at memory
    cases memory
    exact holdsAfter
  · rw [found] at same
    cases same
    have sameClient := followsAfter.memory
    rw [follows.memory] at sameClient
    cases sameClient
    rw [silent, fetchedOf_nil, List.append_nil, polled?_of_stuck there stuck, Option.or_none]
    exact kept.left action follows.sameTopic holds

/-- What every action keeps holds after any run of all the records that were fetched in it. -/
theorem HasFetched.after (kept : KeptByFetching n settings topic Holds)
    (fetched : HasFetched Holds system n settings topic polled records) (actions : List Action) :
    HasFetched Holds (system.after actions) n settings topic
      (polled.or (system.firstPolled? n actions))
      (records ++ fetchedOf (happeningsOf (.consumer n) (system.events actions))) := by
  induction actions generalizing system polled records with
  | nil => simpa [firstPolled?] using fetched
  | cons action rest inductionHypothesis =>
      have further := inductionHypothesis (fetched.next kept action)
      rw [Option.or_assoc, List.append_assoc] at further
      rw [events_cons, happeningsOf_append, fetchedOf_append]
      exact further

/-- What holds of every consumer that is new, and is kept by every action, holds of a consumer
that is made in a run and of all the records that it has fetched in it. -/
theorem hasFetched_of_absent {Holds :
      Settings.Consumer → System → Consumer → Client → Option Broker → List Record → Prop}
    (kept : ∀ settings topic, KeptByFetching n settings topic (Holds settings))
    (begins : ∀ settings system consumer client, Holds settings system consumer client none [])
    {client : Client} {actions : List Action} (absent : system.consumers[n]? = none)
    (there : (system.after actions).consumers[n]? = some consumer)
    (memory : consumer.source = .memory client) :
    ∃ settings, HasFetched (Holds settings) (system.after actions) n settings consumer.topic
      (system.firstPolled? n actions)
      (fetchedOf (happeningsOf (.consumer n) (system.events actions))) := by
  induction actions generalizing system with
  | nil =>
      rw [after_nil, absent] at there
      cases there
  | cons action rest inductionHypothesis =>
      have effect := system.act_effect action
      have unasked : system.polled? n action = none := by
        unfold polled?
        split
        · simp [absent]
        · rfl
      have silent := effect.consumer_silent absent
      rw [firstPolled?, unasked, Option.none_or, events_cons, happeningsOf_append, silent,
        List.nil_append]
      cases next : (system.next action).consumers[n]? with
      | none => exact inductionHypothesis next there
      | some made =>
          obtain ⟨kind, inlet, scope, rfl, _, making⟩ := effect.consumer_origin absent next
          obtain ⟨final, thereAfter, akin⟩ := consumer_after next rest
          obtain rfl : final = consumer := Option.some.inj (thereAfter.symm.trans there)
          obtain ⟨madeClient, madeMemory⟩ := akin.exists_client memory
          obtain ⟨settings, follows⟩ := follows_ofInlet making madeMemory _
          have fetched : HasFetched (Holds settings) _ n settings made.topic none [] :=
            ⟨made, madeClient, next, follows, begins settings _ made madeClient⟩
          have further := fetched.after (kept settings made.topic) rest
          rw [Option.none_or, List.nil_append, ← akin.1] at further
          exact ⟨settings, further⟩

end System

end TopicBus
