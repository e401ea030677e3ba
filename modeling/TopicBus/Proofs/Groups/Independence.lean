import TopicBus.Proofs.Groups.Answers
import TopicBus.Proofs.Groups.Membership

/-!
# Groups do not disturb each other

An action that is outside of a group changes nothing that the group sees, so all of them can be
erased from a run: to the consumers and the clients of the group the same happens, the same is
answered to them, and the group has committed the same at every moment.
-/

namespace TopicBus

variable {group : String}

/-! ## Whom an action concerns -/

theorem Consumer.Changes.concerns {system : System} {n : Nat} {consumer after : Consumer}
    {action : Action} {reply : Reply} {happenings : List Happening} {broker : Broker}
    (changed : consumer.Changes system n action reply happenings after broker) :
    action.consumer? = some n ∧ action.client? = none := by
  cases changed <;> exact ⟨rfl, rfl⟩

theorem Client.Changes.concerns {system : System} {n : Nat} {client after : Client}
    {action : Action} {reply : Reply} {broker : Broker}
    (changed : client.Changes system n action reply after broker) :
    action.consumer? = none ∧ action.client? = some n := by
  cases changed <;> exact ⟨rfl, rfl⟩

theorem Publisher.Changes.concerns {system : System} {n : Nat} {publisher after : Publisher}
    {action : Action} {reply : Reply} {happenings : List Happening} {broker : Broker}
    (changed : publisher.Changes system n action reply happenings after broker) :
    action.consumer? = none ∧ action.client? = none := by
  cases changed <;> exact ⟨rfl, rfl⟩

/-! ## Commits of others -/

theorem Consumer.Changes.unseen {system : System} {n : Nat} {consumer after : Consumer}
    {action : Action} {reply : Reply} {happenings : List Happening} {broker : Broker}
    (changed : consumer.Changes system n action reply happenings after broker)
    (outside : consumer.source.group? ≠ some group) :
    broker.seenBy group = system.broker.seenBy group := by
  have commit (token : Token) :
      (consumer.commit system.broker token).2.2.seenBy group = system.broker.seenBy group :=
    Source.commit_unseen outside system.broker token
  cases changed with
  | @committed token result after broker done =>
      have committing := commit token
      rw [done] at committing
      exact committing
  | acked done =>
      cases Consumer.ack?_acking done with
      | again found isAcked => rfl
      | unmade found unacked missing => rfl
      | @failed receipt token fault after brokerAfter found unacked carried made
      | @marked receipt token after brokerAfter found unacked carried made =>
          have committing := commit token
          rw [made] at committing
          exact committing
  | opened opens | received canReceive taken | inboxClosed canReceive | inboxDropped
  | closeBegun isHeld first | dropped
  | revised scripted | callsTaken scripted | looped moved | closeStepped moved => rfl

theorem Client.Changes.unseen {system : System} {n : Nat} {client after : Client} {action : Action}
    {reply : Reply} {broker : Broker} (changed : client.Changes system n action reply after broker)
    (outside : client.group ≠ some group) :
    broker.seenBy group = system.broker.seenBy group := by
  cases changed with
  | committed token =>
      unfold Client.commit
      split
      · rfl
      · rename_i other grouped
        apply Broker.seenBy_commit_of_ne
        rintro rfl
        exact outside grouped
  | subscribed topic | fetched | closed => rfl

namespace System

variable {system later : System} {n : Nat} {action : Action}

/-! ## Erasing the actions of others -/

theorem isOutside_iff :
    system.isOutside group action = true ↔
      (∃ n consumer, action.consumer? = some n ∧ system.consumers[n]? = some consumer ∧
        consumer.source.group? ≠ some group) ∨
      ∃ n client, action.client? = some n ∧ system.clients[n]? = some client ∧
        client.group ≠ some group := by
  simp only [isOutside, Bool.or_eq_true, Option.any_eq_true, Option.bind_eq_some_iff,
    decide_eq_true_eq]
  constructor
  · rintro (⟨consumer, ⟨n, concerned, there⟩, outside⟩ | ⟨client, ⟨n, concerned, there⟩, outside⟩)
    · exact .inl ⟨n, consumer, concerned, there, outside⟩
    · exact .inr ⟨n, client, concerned, there, outside⟩
  · rintro (⟨n, consumer, concerned, there, outside⟩ | ⟨n, client, concerned, there, outside⟩)
    · exact .inl ⟨consumer, ⟨n, concerned, there⟩, outside⟩
    · exact .inr ⟨client, ⟨n, concerned, there⟩, outside⟩

private theorem any_of_view {α : Type} (concerned : Option Nat) (members : List α) {view : α → α}
    {holds : α → Bool} (same : ∀ member, holds (view member) = holds member) :
    (concerned.bind fun n => (members.map view)[n]?).any holds =
      (concerned.bind fun n => members[n]?).any holds := by
  cases concerned with
  | none => rfl
  | some n => simp [Option.any_map, same]

/-- Who is outside of a group can be told from what the group sees. -/
theorem isOutside_seenBy (system : System) (group : String) (action : Action) :
    (system.seenBy group).isOutside group action = system.isOutside group action := by
  simp only [isOutside, seenBy]
  rw [any_of_view, any_of_view]
  · intro client
    simp [Client.inGroup_seenBy_iff]
  · intro consumer
    simp [Consumer.inGroup_seenBy_iff]

/-- Nobody who is outside of a group on one bus is in it on a later one. -/
theorem KeepsGroups.isOutside_eq_false (keeps : system.KeepsGroups later)
    (kept : later.isOutside group action = false) : system.isOutside group action = false := by
  by_contra outside
  rw [Bool.not_eq_false] at outside
  apply Bool.eq_false_iff.mp kept
  rcases isOutside_iff.mp outside with
    ⟨n, consumer, concerned, there, different⟩ | ⟨n, client, concerned, there, different⟩
  · obtain ⟨after, found, same⟩ := keeps.consumer there
    exact isOutside_iff.mpr (.inl ⟨n, after, concerned, found, same ▸ different⟩)
  · obtain ⟨after, found, same⟩ := keeps.client there
    exact isOutside_iff.mpr (.inr ⟨n, after, concerned, found, same ▸ different⟩)

/-- A change of a consumer that is not in the group, before and after it, is not seen. -/
private theorem setConsumer_unseen {before after : Consumer} {broker : Broker}
    (found : system.consumers[n]? = some before) (outside : before.source.group? ≠ some group)
    (still : after.source.group? ≠ some group)
    (unseen : broker.seenBy group = system.broker.seenBy group) :
    { system.setConsumer n after with broker := broker }.seenBy group = system.seenBy group := by
  have place : (system.consumers.map (·.seenBy group))[n]? = some Consumer.stranger := by
    rw [List.getElem?_map, found]
    exact congrArg some (Consumer.seenBy_of_outside outside)
  obtain ⟨inside, same⟩ := List.getElem?_eq_some_iff.mp place
  have kept : (system.consumers.map (·.seenBy group)).set n Consumer.stranger =
      system.consumers.map (·.seenBy group) := by
    rw [← same]
    exact List.set_getElem_self inside
  simp [seenBy, setConsumer, List.map_set, Consumer.seenBy_of_outside still, kept, unseen]

private theorem setClient_unseen {before after : Client} {broker : Broker}
    (found : system.clients[n]? = some before) (outside : before.group ≠ some group)
    (still : after.group ≠ some group)
    (unseen : broker.seenBy group = system.broker.seenBy group) :
    { system.setClient n after with broker := broker }.seenBy group = system.seenBy group := by
  have place : (system.clients.map (·.seenBy group))[n]? = some (Client.ofSettings .default) := by
    rw [List.getElem?_map, found]
    exact congrArg some (Client.seenBy_of_outside outside)
  obtain ⟨inside, same⟩ := List.getElem?_eq_some_iff.mp place
  have kept : (system.clients.map (·.seenBy group)).set n (Client.ofSettings .default) =
      system.clients.map (·.seenBy group) := by
    rw [← same]
    exact List.set_getElem_self inside
  simp [seenBy, setClient, List.map_set, Client.seenBy_of_outside still, kept, unseen]

/-- An action that is found to be outside of a group, now or later, changes nothing that the
group sees. -/
theorem next_unseen (readers : system.ReadersFollow) (keeps : system.KeepsGroups later)
    (outside : later.isOutside group action = true) :
    (system.next action).seenBy group = system.seenBy group := by
  have stays := keepsGroups_next readers action
  have effect := system.act_effect action
  have concerned := isOutside_iff.mp outside
  generalize system.next action = next at effect stays ⊢
  generalize (system.act action).1 = reply at effect
  generalize (system.act action).2.2 = events at effect
  cases effect with
  | idle unsent unmoved => rfl
  | publisher found changed => simp [changed.concerns] at concerned
  | @consumer action reply n before moved broker happenings found changed =>
      obtain ⟨consumed, unserved⟩ := changed.concerns
      obtain ⟨after, there, same⟩ := keeps.consumer found
      have different : before.source.group? ≠ some group := by
        simpa [consumed, unserved, there, same] using concerned
      obtain ⟨after, there, same⟩ := stays.consumer found
      obtain ⟨inside, _⟩ := List.getElem?_eq_some_iff.mp found
      obtain rfl : moved = after := by
        rw [setConsumer, List.getElem?_set_self inside] at there
        exact Option.some.inj there
      exact setConsumer_unseen found different (same ▸ different) (changed.unseen different)
  | @client action reply n before moved broker found changed =>
      obtain ⟨unconsumed, served⟩ := changed.concerns
      obtain ⟨after, there, same⟩ := keeps.client found
      have different : before.group ≠ some group := by
        simpa [unconsumed, served, there, same] using concerned
      have same := changed.group_eq
      exact setClient_unseen found different (same ▸ different) (changed.unseen different)
  | registered kind name replied => simp [Action.consumer?, Action.client?] at concerned
  | publisherAdded making => simp [Action.consumer?, Action.client?] at concerned
  | consumerAdded making => simp [Action.consumer?, Action.client?] at concerned
  | clientAdded settings => simp [Action.consumer?, Action.client?] at concerned
  | appended topic key payload => simp [Action.consumer?, Action.client?] at concerned
  | enqueued outbound => simp [Action.consumer?, Action.client?] at concerned
  | pollsFailed reason => simp [Action.consumer?, Action.client?] at concerned
  | notified owes => simp [Action.consumer?, Action.client?] at concerned
  | scopeCancelled scope => simp [Action.consumer?, Action.client?] at concerned
  | passed milliseconds => simp [Action.consumer?, Action.client?] at concerned

/-- Nothing happens to a consumer of the group by an action that is outside of it. -/
private theorem happeningsOf_outside {consumer : Consumer}
    (there : later.consumers[n]? = some consumer) (inGroup : consumer.source.group? = some group)
    (outside : later.isOutside group action = true) :
    happeningsOf (.consumer n) (system.act action).2.2 = [] := by
  have effect := system.act_effect action
  cases found : system.consumers[n]? with
  | none => exact effect.consumer_silent found
  | some before =>
      rcases effect.consumer_frame found with ⟨moved, foundAfter, changed⟩ | ⟨_, silent, _⟩
      · obtain ⟨consumed, unserved⟩ := changed.concerns
        have concerned := isOutside_iff.mp outside
        simp [consumed, unserved, there, inGroup] at concerned
      · exact silent

end System

/-- Two moves that a group cannot tell apart: the same is done, answered and observed, and the
group has committed the same after it. -/
structure Move.LooksAlike (group : String) (move other : Move) : Prop where
  action : other.action = move.action
  reply : other.reply = move.reply
  events : other.events = move.events
  committed : ∀ topic, other.after.broker.committed? group topic =
    move.after.broker.committed? group topic

namespace System

variable {system view later : System} {n : Nat} {action : Action}

private theorem committed?_of_seenBy (seen : view.seenBy group = system.seenBy group)
    (topic : String) :
    view.broker.committed? group topic = system.broker.committed? group topic := by
  have same : view.broker.seenBy group = system.broker.seenBy group := congrArg broker seen
  rw [← Broker.committed?_seenBy, same, Broker.committed?_seenBy]

/-- On two buses of which a group sees the same, an action that is not outside of it does the
same. -/
private theorem act_of_seenBy (seen : view.seenBy group = system.seenBy group)
    (kept : system.isOutside group action = false) :
    (view.act action).1 = (system.act action).1 ∧
      (view.next action).seenBy group = (system.next action).seenBy group ∧
      (view.act action).2.2 = (system.act action).2.2 := by
  have keptInView : view.isOutside group action = false := by
    rw [← isOutside_seenBy, seen, isOutside_seenBy]
    exact kept
  have same :
      Outcome.seenBy group (view.act action) = Outcome.seenBy group (system.act action) := by
    rw [← act_seenBy keptInView, seen, act_seenBy kept]
  simp only [Outcome.seenBy, Prod.mk.injEq] at same
  exact same

/-- The run without the actions that are outside of a group. -/
def erased (later : System) (group : String) (actions : List Action) : List Action :=
  actions.filter fun action => !later.isOutside group action

/-- Everything else happens as before. -/
private theorem run_erased (readers : system.ReadersFollow)
    (seen : view.seenBy group = system.seenBy group) (actions : List Action)
    (keeps : (system.after actions).KeepsGroups later) :
    List.Forall₂ (Move.LooksAlike group)
        ((system.run actions).filter fun move => !later.isOutside group move.action)
        (view.run (later.erased group actions)) ∧
      (view.after (later.erased group actions)).seenBy group =
        (system.after actions).seenBy group ∧
      ∀ n consumer, later.consumers[n]? = some consumer → consumer.source.group? = some group →
        happeningsOf (.consumer n) (view.events (later.erased group actions)) =
          happeningsOf (.consumer n) (system.events actions) := by
  induction actions generalizing system view with
  | nil => exact ⟨.nil, seen, fun _ _ _ _ => rfl⟩
  | cons action rest inductionHypothesis =>
      have keepsNow : system.KeepsGroups later :=
        (keepsGroups_after readers (action :: rest)).trans keeps
      have moves : system.run (action :: rest) =
          ⟨action, (system.act action).1, (system.act action).2.2, system.next action⟩ ::
            (system.next action).run rest := rfl
      by_cases outside : later.isOutside group action = true
      · have unseen := next_unseen readers keepsNow outside
        have erasedOne : later.erased group (action :: rest) = later.erased group rest := by
          simp [erased, outside]
        obtain ⟨alike, seenAfter, happenings⟩ :=
          inductionHypothesis (readers.next action) (seen.trans unseen.symm) keeps
        rw [erasedOne, moves]
        simp only [List.filter_cons, outside, Bool.not_true, Bool.false_eq_true, if_false]
        refine ⟨alike, seenAfter, fun n consumer there inGroup => ?_⟩
        rw [events_cons, happeningsOf_append, happeningsOf_outside there inGroup outside]
        exact happenings n consumer there inGroup
      · have kept : later.isOutside group action = false := by simpa using outside
        have keptOne : later.erased group (action :: rest) =
            action :: later.erased group rest := by
          simp [erased, kept]
        obtain ⟨reply, seenNext, events⟩ :=
          act_of_seenBy seen (keepsNow.isOutside_eq_false kept)
        obtain ⟨alike, seenAfter, happenings⟩ :=
          inductionHypothesis (readers.next action) seenNext keeps
        rw [keptOne, moves]
        simp only [List.filter_cons, kept, Bool.not_false, if_true]
        refine ⟨.cons ⟨rfl, reply, events, ?_⟩ alike, seenAfter, fun n consumer there inGroup => ?_⟩
        · exact committed?_of_seenBy seenNext
        · rw [events_cons, events_cons, happeningsOf_append, happeningsOf_append, events,
            happenings n consumer there inGroup]

/-- What is done for one group is outside of every other one. -/
private theorem isOutside_of_isInside {other : String} (different : other ≠ group)
    (inside : system.isInside group action = true) : system.isOutside other action = true := by
  have foreign (found : Option String) (inGroup : found = some group) : found ≠ some other := by
    rw [inGroup]
    simpa using different.symm
  simp only [isInside, Bool.or_eq_true, Option.any_eq_true, Option.bind_eq_some_iff,
    decide_eq_true_eq] at inside
  rcases inside with ⟨consumer, ⟨n, concerned, there⟩, inGroup⟩ |
    ⟨client, ⟨n, concerned, there⟩, inGroup⟩
  · exact isOutside_iff.mpr (.inl ⟨n, consumer, concerned, there, foreign _ inGroup⟩)
  · exact isOutside_iff.mpr (.inr ⟨n, client, concerned, there, foreign _ inGroup⟩)

/-- Nothing that is done for a group changes what another one has committed. -/
private theorem committed?_of_isInside (readers : system.ReadersFollow) {other : String}
    (different : other ≠ group) (inside : system.isInside group action = true) (topic : String) :
    (system.next action).broker.committed? other topic = system.broker.committed? other topic := by
  have keeps : system.KeepsGroups system := keepsGroups_after readers []
  have outside := isOutside_of_isInside different inside
  exact committed?_of_seenBy (next_unseen readers keeps outside) topic

/-! ## The theorem -/

/-- A group cannot tell one run of a bus from another: apart from what is outside of it, the
same is done, answered and observed, and in the end it finds the same offsets, the same
consumers with the same past, and the same clients. -/
structure Undisturbed (system : System) (group : String) (actions others : List Action) : Prop where
  moves : List.Forall₂ (Move.LooksAlike group)
    ((system.run actions).filter fun move => !(system.after actions).isOutside group move.action)
    (system.run others)
  committed : ∀ topic, (system.after others).broker.committed? group topic =
    (system.after actions).broker.committed? group topic
  consumers : ∀ n consumer, (system.after actions).consumers[n]? = some consumer →
    consumer.source.group? = some group →
      (system.after others).consumers[n]? = some consumer ∧
        happeningsOf (.consumer n) (system.events others) =
          happeningsOf (.consumer n) (system.events actions)
  clients : ∀ (n : Nat) (client : Client), (system.after actions).clients[n]? = some client →
    client.group = some group → (system.after others).clients[n]? = some client

private theorem consumer_of_seenBy (seen : view.seenBy group = system.seenBy group)
    {consumer : Consumer} (there : system.consumers[n]? = some consumer)
    (inGroup : consumer.source.group? = some group) : view.consumers[n]? = some consumer := by
  have same : (view.seenBy group).consumers[n]? = some consumer := by
    rw [seen, seenBy, List.getElem?_map, there]
    exact congrArg some (Consumer.seenBy_of_inGroup inGroup)
  simp only [seenBy, List.getElem?_map, Option.map_eq_some_iff] at same
  obtain ⟨other, found, looks⟩ := same
  have member : other.source.group? = some group := by
    rw [← Consumer.inGroup_seenBy_iff, looks]
    exact inGroup
  rw [Consumer.seenBy_of_inGroup member] at looks
  rw [found, looks]

private theorem client_of_seenBy (seen : view.seenBy group = system.seenBy group)
    {client : Client} (there : system.clients[n]? = some client)
    (inGroup : client.group = some group) : view.clients[n]? = some client := by
  have same : (view.seenBy group).clients[n]? = some client := by
    rw [seen, seenBy, List.getElem?_map, there]
    exact congrArg some (Client.seenBy_of_inGroup inGroup)
  simp only [seenBy, List.getElem?_map, Option.map_eq_some_iff] at same
  obtain ⟨other, found, looks⟩ := same
  have member : other.group = some group := by
    rw [← Client.inGroup_seenBy_iff, looks]
    exact inGroup
  rw [Client.seenBy_of_inGroup member] at looks
  rw [found, looks]

/-- All actions on consumers and clients that are not in a group can be erased from a run
without disturbing the group, and no action on one that is in it ever changes what another group
has committed. -/
theorem others_unnoticed (registry : Registry) (actions : List Action) (group : String) :
    (ofRegistry registry).Undisturbed group actions
        (((ofRegistry registry).after actions).erased group actions) ∧
      ∀ earlier action later, actions = earlier ++ action :: later →
        ((ofRegistry registry).after earlier).isInside group action = true →
          ∀ other topic, other ≠ group →
            (((ofRegistry registry).after earlier).next action).broker.committed? other topic =
              ((ofRegistry registry).after earlier).broker.committed? other topic := by
  have readers := readersFollow_ofRegistry registry
  have keeps : ((ofRegistry registry).after actions).KeepsGroups
      ((ofRegistry registry).after actions) := keepsGroups_after (readers.after actions) []
  have unchanged : (ofRegistry registry).seenBy group = (ofRegistry registry).seenBy group := rfl
  obtain ⟨moves, seen, happenings⟩ := run_erased readers unchanged actions keeps
  constructor
  · constructor
    · exact moves
    · exact committed?_of_seenBy seen
    · intro n consumer there inGroup
      exact ⟨consumer_of_seenBy seen there inGroup, happenings n consumer there inGroup⟩
    · intro n client there inGroup
      exact client_of_seenBy seen there inGroup
  · intro earlier action later _ inside other topic different
    exact committed?_of_isInside (readers.after earlier) different inside topic

/-- A consumer of the group `g` reads a record, while one of the group `h` commits positions of
two topics and one without a group reads the record, too. -/
def readAmongOthers : List Action :=
  let joiningAs (group : String) : Action :=
    .addConsumer .unit (.memory [("consumer", .mapping [("group_id", .text group)])]) "scope"
  let turn (n : Nat) : Action := .step (.pollLoop n)
  [.append "beat" none (Scan.letters "null"), joiningAs "g", joiningAs "h",
    .addConsumer .unit (.memory []) "scope", .openConsumer 0, .commit 1 ⟨"beat", 0, 6⟩,
    .openConsumer 2, turn 0, turn 2, .commit 1 ⟨"tick", 0, 3⟩, turn 0, turn 2, turn 0, .receive 0,
    .commit 2 ⟨"beat", 0, 8⟩]

theorem others_unnoticed_by_reader :
    let bus := ofRegistry ⟨[(.unit, "beat")], [("beat", .unit)]⟩
    let actions := readAmongOthers ++ [.ack 0 0]
    let kept := (bus.after actions).erased "g" actions
    kept.length + 6 = actions.length ∧ bus.Undisturbed "g" actions kept ∧
      (bus.after kept).broker.committed? "g" "beat" = some 1 ∧
      (bus.after actions).broker.committed? "h" "beat" = some 7 := by
  intro bus actions kept
  obtain ⟨undisturbed, others⟩ :=
    others_unnoticed ⟨[(.unit, "beat")], [("beat", .unit)]⟩ actions "g"
  have inside : (bus.after readAmongOthers).isInside "g" (.ack 0 0) = true := by decide +kernel
  have still := others readAmongOthers (.ack 0 0) [] rfl inside "h" "beat" (by decide)
  have committed : (bus.after actions).broker.committed? "g" "beat" = some 1 := by decide +kernel
  have before : (bus.after readAmongOthers).broker.committed? "h" "beat" = some 7 := by
    decide +kernel
  refine ⟨by decide +kernel, undisturbed, (undisturbed.committed "beat").trans committed, ?_⟩
  rw [after_append, after_cons, after_nil]
  exact still.trans before

end System

end TopicBus
