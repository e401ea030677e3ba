import TopicBus.Proofs.Bus.Topics
import TopicBus.Proofs.Delivery.InOrder

/-!
# What is delivered again

Every acknowledgement commits the position of its own record, and the commit that was made last
counts. So a group that makes no other commits goes on behind the record that it has
acknowledged last, and a record that was acknowledged before is kept from the next consumer just
if it does not stand behind that one.
-/

namespace TopicBus

/-! ## Commits -/

namespace Broker

/-- The offsets that a group has committed on a topic, the oldest first. -/
def commitsFor (broker : Broker) (group topic : String) : List Int :=
  (broker.commits.filter fun commit => commit.group = group ∧ commit.token.topic = topic).map
    fun commit => commit.token.offset

/-- A group goes on behind its last commit. -/
theorem committed?_eq (broker : Broker) (group topic : String) :
    broker.committed? group topic = (broker.commitsFor group topic).getLast?.map (· + 1) := by
  simp [committed?, commitsFor, List.getLast?_map, Function.comp_def]

@[simp]
theorem commitsFor_commit (broker : Broker) (group other topic : String) (token : Token) :
    (broker.commit group token).commitsFor other topic =
      broker.commitsFor other topic ++
        if group = other ∧ token.topic = topic then [token.offset] else [] := by
  by_cases same : group = other ∧ token.topic = topic
  · simp [commitsFor, commit, same]
  · simp [commitsFor, commit, same]

/-- A group that has committed starts behind its last commit, whatever its policy is. -/
theorem start?_of_committed {broker : Broker} {settings : Settings.Consumer} {group topic : String}
    {last : Int} (grouped : settings.group = some group)
    (committed : (broker.commitsFor group topic).getLast? = some last) :
    broker.start? settings topic = some (last + 1) := by
  simp [start?, grouped, committed?_eq, committed]

end Broker

/-! ## Acknowledgements -/

/-- Whether an action is an acknowledgement. -/
def Action.isAck : Action → Bool
  | .ack _ _ => true
  | _ => false

/-- The offsets of the records whose messages the application has received. -/
def Consumer.delivered (consumer : Consumer) : List Int :=
  consumer.received.filterMap fun message => message.token.map Token.offset

/-- The group and the position that an acknowledgement is to commit. There is nothing to be
committed for a message that was acknowledged before. -/
def Consumer.commits? (consumer : Consumer) (receipt : Nat) : Option (String × Token) := do
  let received ← consumer.receipts[receipt]?
  let token ← received.message.token
  let group ← consumer.source.group?
  if received.isAcked then none else some (group, token)

/-- The broker after the commit that is to be made, if there is one. -/
def Broker.commitIf (broker : Broker) : Option (String × Token) → Broker
  | none => broker
  | some (group, token) => broker.commit group token

/-- A commit made through a consumer reaches the broker just if the consumer has a group. -/
private theorem Consumer.commit_commitIf {consumer after : Consumer} {broker brokerAfter : Broker}
    {token : Token} {result : Except Fault Unit}
    (committing : consumer.commit broker token = (result, after, brokerAfter)) :
    brokerAfter = broker.commitIf (consumer.source.group?.map fun group => (group, token)) := by
  have made : (consumer.source.commit broker token).2.2 = brokerAfter := by
    cases committing
    rfl
  rw [← made]
  cases grouped : consumer.source.group? with
  | none => exact Source.commit_of_no_group grouped broker token
  | some group => rw [Source.commit_of_group grouped]; rfl

theorem Consumer.ack?_commits {consumer after : Consumer} {broker brokerAfter : Broker}
    {receipt : Nat} {result : Except Fault Unit}
    (done : consumer.ack? broker receipt = some (result, after, brokerAfter)) :
    brokerAfter = broker.commitIf (consumer.commits? receipt) := by
  cases Consumer.ack?_acking done with
  | again found isAcked =>
      have nothing : consumer.commits? receipt = none := by simp [commits?, found, isAcked]
      rw [nothing]
      rfl
  | unmade found unacked missing =>
      have nothing : consumer.commits? receipt = none := by simp [commits?, found, missing]
      rw [nothing]
      rfl
  | failed found unacked carried committing | marked found unacked carried committing =>
      rw [Consumer.commit_commitIf committing]
      simp [commits?, found, unacked, carried, Option.map_eq_bind]

namespace System

/-- The offset that an action acknowledges for a group on a topic. -/
def acked? (system : System) (group topic : String) : Action → Option Int
  | .ack n receipt => do
      let consumer ← system.consumers[n]?
      let (other, token) ← consumer.commits? receipt
      if other = group ∧ token.topic = topic then some token.offset else none
  | _ => none

/-- The offsets that a group acknowledges on a topic along a run, in order. -/
def acks (system : System) (group topic : String) : List Action → List Int
  | [] => []
  | action :: rest =>
      (system.acked? group topic action).toList ++ (system.next action).acks group topic rest

/-- Nothing is committed for a group on a topic along a run, but by acknowledging. -/
def OnlyAcks (system : System) (group topic : String) : List Action → Prop
  | [] => True
  | action :: rest =>
      (action.isAck = false →
        (system.next action).broker.commitsFor group topic =
          system.broker.commitsFor group topic) ∧
      (system.next action).OnlyAcks group topic rest

instance decidableOnlyAcks (system : System) (group topic : String) :
    (actions : List Action) → Decidable (system.OnlyAcks group topic actions)
  | [] => .isTrue trivial
  | action :: rest =>
      have := decidableOnlyAcks (system.next action) group topic rest
      inferInstanceAs (Decidable (_ ∧ _))

variable {system : System} {group topic : String}

private theorem commitsFor_ack (system : System) (group topic : String) (n receipt : Nat) :
    (system.next (.ack n receipt)).broker.commitsFor group topic =
      system.broker.commitsFor group topic ++
        (system.acked? group topic (.ack n receipt)).toList := by
  simp only [next, act, ack, acked?]
  cases system.consumers[n]? with
  | none => simp [absent]
  | some consumer =>
      cases acking : consumer.ack? system.broker receipt with
      | none =>
          have nothing : consumer.receipts[receipt]? = none := by
            simpa [Consumer.ack?] using acking
          simp [Consumer.commits?, nothing, absent, acking]
      | some done =>
          obtain ⟨result, after, broker⟩ := done
          have committed := Consumer.ack?_commits acking
          cases commits : consumer.commits? receipt with
          | none => simp [acking, committed, commits, Broker.commitIf]
          | some made =>
              obtain ⟨other, token⟩ := made
              by_cases same : other = group ∧ token.topic = topic
              · simp [acking, committed, commits, Broker.commitIf, same]
              · simp [acking, committed, commits, Broker.commitIf, same]

/-- Where nothing but acknowledgements commits, the commits of a run are its acknowledgements. -/
theorem OnlyAcks.commitsFor_after {actions : List Action}
    (onlyAcks : system.OnlyAcks group topic actions) :
    (system.after actions).broker.commitsFor group topic =
      system.broker.commitsFor group topic ++ system.acks group topic actions := by
  induction actions generalizing system with
  | nil => simp [acks]
  | cons action rest inductionHypothesis =>
      obtain ⟨now, later⟩ := onlyAcks
      have step : (system.next action).broker.commitsFor group topic =
          system.broker.commitsFor group topic ++ (system.acked? group topic action).toList := by
        cases action with
        | ack n receipt => exact system.commitsFor_ack group topic n receipt
        | _ =>
            rw [now rfl]
            simp [acked?]
      rw [after_cons, inductionHypothesis later, step, acks, List.append_assoc]

/-! ## What was acknowledged can be read -/

/-- The record of a topic at an offset is there, and it decodes. -/
def IsReadable (system : System) (topic : Topic) (offset : Nat) : Prop :=
  ∃ stored message, (system.broker.log topic.name)[offset]? = some stored ∧
    topic.message? offset stored = some message

theorem IsReadable.after {topic : Topic} {offset : Nat} (readable : system.IsReadable topic offset)
    (actions : List Action) : (system.after actions).IsReadable topic offset := by
  obtain ⟨stored, message, found, made⟩ := readable
  exact ⟨stored, message, Broker.found_of_grown (system.log_grows_after actions topic.name) found,
    made⟩

/-- An acknowledged offset is that of a message that some consumer on the topic has received. -/
private theorem isReadable_of_acked (readers : system.ReadersFollow) (topics : system.HasTopics)
    {action : Action} {acked : Int} (acking : system.acked? group topic action = some acked) :
    ∃ bound : Topic, system.registry.Binds bound ∧ bound.name = topic ∧
      ∃ offset : Nat, acked = offset ∧ system.IsReadable bound offset := by
  cases action with
  | ack n receipt =>
      simp only [acked?, Option.bind_eq_bind, Option.bind_eq_some_iff] at acking
      obtain ⟨consumer, there, ⟨other, token⟩, committing, matching⟩ := acking
      simp only [Consumer.commits?, Option.bind_eq_bind, Option.bind_eq_some_iff] at committing
      obtain ⟨received, found, made, carried, grouped, inGroup, unacked⟩ := committing
      obtain ⟨client, memory⟩ : ∃ client, consumer.source = .memory client := by
        cases source : consumer.source with
        | memory client => exact ⟨client, rfl⟩
        | scripted script =>
            rw [source] at inGroup
            cases inGroup
        | remote group =>
            rw [source] at inGroup
            cases inGroup
      obtain ⟨settings, polled, follows⟩ := readers there memory
      have member : received.message ∈ consumer.received :=
        List.mem_map_of_mem (List.mem_of_getElem? found)
      obtain ⟨offset, stored, inLog, message⟩ := follows.mem_received member
      have sameToken := consumer.topic.message?_token message
      rw [carried] at sameToken
      cases sameToken
      split at unacked
      · cases unacked
      · cases unacked
        split at matching
        · rename_i same
          cases matching
          exact ⟨consumer.topic, topics.consumers there, same.2, offset, rfl, stored, _, inLog,
            message⟩
        · cases matching
  | _ => cases acking

theorem binds_after {bound : Topic} (binds : system.registry.Binds bound) (actions : List Action) :
    (system.after actions).registry.Binds bound :=
  after_of_next (fun later => later.registry.Binds bound)
    (fun _ action binds => binds_next binds action) binds actions

private theorem isReadable_of_mem_acks (readers : system.ReadersFollow) (topics : system.HasTopics)
    {actions : List Action} {acked : Int} (member : acked ∈ system.acks group topic actions) :
    ∃ bound : Topic, (system.after actions).registry.Binds bound ∧ bound.name = topic ∧
      ∃ offset : Nat, acked = offset ∧ (system.after actions).IsReadable bound offset := by
  induction actions generalizing system with
  | nil => cases member
  | cons action rest inductionHypothesis =>
      rw [acks, List.mem_append] at member
      rcases member with now | later
      · obtain ⟨bound, binds, named, offset, same, readable⟩ :=
          isReadable_of_acked readers topics (Option.mem_toList.mp now)
        exact ⟨bound, binds_after binds (action :: rest), named, offset, same,
          readable.after (action :: rest)⟩
      · exact inductionHypothesis (readers.next action) (topics.next action) later

/-! ## The next consumer of a group -/

/-- The offsets of what the consumers of a group have delivered on a topic. -/
def deliveredTo (system : System) (group topic : String) : List Int :=
  system.consumers.flatMap fun consumer =>
    if consumer.source.group? = some group ∧ consumer.topic.name = topic then consumer.delivered
    else []

/-- Whether the record at an offset was delivered to the application by the consumer with a
number. -/
def HasDelivered (system : System) (n : Nat) (offset : Int) : Prop :=
  ∃ consumer, system.consumers[n]? = some consumer ∧ offset ∈ consumer.delivered

variable {n : Nat} {consumer : Consumer} {client : Client}

private theorem start_le_of_hasDelivered {settings : Settings.Consumer} {bound : Topic}
    {first : Broker} {start offset : Int}
    (follower : system.HasFollower n settings bound (some first))
    (starts : first.start? settings bound.name = some start)
    (delivered : system.HasDelivered n offset) : start ≤ offset := by
  obtain ⟨consumer, client, there, follows⟩ := follower
  obtain ⟨same, thereToo, member⟩ := delivered
  rw [there] at thereToo
  cases thereToo
  obtain ⟨message, received, carried⟩ := List.mem_filterMap.mp member
  obtain ⟨place, stored, beyond, _, made⟩ :=
    Broker.mem_messagesFrom_iff.mp ((received_isPrefix follows starts).subset received)
  rw [bound.message?_token made] at carried
  cases carried
  exact beyond

/-- A consumer that goes on delivers in the end every readable record from its start on. -/
private theorem exists_hasDelivered {settings : Settings.Consumer} {bound : Topic} {first : Broker}
    {start : Int} {offset : Nat}
    (reading : system.IsReading n settings bound first consumer client)
    (starts : first.start? settings bound.name = some start) (whole : 0 ≤ start)
    (beyond : start ≤ offset) (readable : system.IsReadable bound offset) :
    ∃ later, (system.after later).HasDelivered n offset := by
  obtain ⟨later, _, _, consumerAfter, there, received⟩ := reading.drains whole starts
  obtain ⟨stored, message, found, made⟩ := readable
  refine ⟨later, consumerAfter, there, List.mem_filterMap.mpr ⟨message, ?_, ?_⟩⟩
  · rw [received]
    exact Broker.mem_messagesFrom_iff.mpr ⟨offset, stored, beyond, found, made⟩
  · rw [bound.message?_token made]
    rfl

private theorem isReading_behind_last (readers : system.ReadersFollow) {last : Int}
    (committed : (system.broker.commitsFor group consumer.topic.name).getLast? = some last)
    (there : system.consumers[n]? = some consumer) (memory : consumer.source = .memory client)
    (inGroup : client.group = some group) (isFirst : client.position = none)
    (polling : system.isPolling consumer = true) (hasReceiver : consumer.inbox.hasReceiver = true) :
    ∃ settings consumerAfter clientAfter,
      system.broker.start? settings consumer.topic.name = some (last + 1) ∧
        (system.next (.step (.pollLoop n))).IsReading n settings consumer.topic system.broker
          consumerAfter clientAfter := by
  obtain ⟨settings, polled, follows⟩ := readers there memory
  have starts := Broker.start?_of_committed (follows.group.symm.trans inGroup) committed
  have placed : client.nextPosition system.broker consumer.topic.name = .ok (last + 1) := by
    simp [Client.nextPosition, isFirst, Client.startPosition_eq follows.group follows.policy,
      starts]
  have asking : consumer.isAsking = true := by
    simp only [isPolling, Bool.and_eq_true] at polling
    exact polling.1.1
  obtain rfl := follows.unasked (Consumer.loop_of_asking asking).1 isFirst
  obtain ⟨first, consumerAfter, clientAfter, settled, reading⟩ :=
    isReading_next_poll there follows polling hasReceiver placed
  cases settled
  exact ⟨settings, consumerAfter, clientAfter, starts, reading⟩

/-- A group makes no commits on a topic but by acknowledging, and a consumer of it makes its
first poll of the topic. That consumer never delivers an acknowledged record again just if the
record that the group has acknowledged last is not before it. -/
theorem acked_not_delivered_again_iff (actions : List Action) (group : String) (n : Nat)
    (consumer : Consumer) (client : Client) (offset : Int)
    (onlyAcks : (ofRegistry .empty).OnlyAcks group consumer.topic.name actions)
    (acked : offset ∈ (ofRegistry .empty).acks group consumer.topic.name actions)
    (there : ((ofRegistry .empty).after actions).consumers[n]? = some consumer)
    (memory : consumer.source = .memory client) (inGroup : client.group = some group)
    (isFirst : client.position = none)
    (polling : ((ofRegistry .empty).after actions).isPolling consumer = true)
    (hasReceiver : consumer.inbox.hasReceiver = true) :
    (∀ later, ¬((ofRegistry .empty).after
        (actions ++ .step (.pollLoop n) :: later)).HasDelivered n offset) ↔
      ∃ last, ((ofRegistry .empty).acks group consumer.topic.name actions).getLast? = some last ∧
        offset ≤ last := by
  have topics : ((ofRegistry .empty).after actions).HasTopics := hasTopics_empty.after actions
  have found (other : Int)
      (member : other ∈ (ofRegistry .empty).acks group consumer.topic.name actions) :
      ∃ place : Nat, other = place ∧
        ((ofRegistry .empty).after actions).IsReadable consumer.topic place := by
    obtain ⟨bound, binds, named, place, same, readable⟩ :=
      isReadable_of_mem_acks (readersFollow_ofRegistry .empty) hasTopics_empty member
    -- All consumers on one topic are for one kind, so the record decodes for this one too.
    obtain rfl := topics.oneToOne.topic_eq binds (topics.consumers there) named
    exact ⟨place, same, readable⟩
  obtain ⟨last, isLast⟩ : ∃ last,
      ((ofRegistry .empty).acks group consumer.topic.name actions).getLast? = some last := by
    cases ending : ((ofRegistry .empty).acks group consumer.topic.name actions).getLast? with
    | none =>
        rw [List.getLast?_eq_none_iff] at ending
        rw [ending] at acked
        cases acked
    | some last => exact ⟨last, rfl⟩
  have committed : (((ofRegistry .empty).after actions).broker.commitsFor group
      consumer.topic.name).getLast? = some last := by
    rw [onlyAcks.commitsFor_after]
    exact isLast
  obtain ⟨settings, consumerAfter, clientAfter, starts, reading⟩ :=
    isReading_behind_last ((readersFollow_ofRegistry .empty).after actions) committed there memory
      inGroup isFirst polling hasReceiver
  rw [isLast]
  constructor
  · intro never
    refine ⟨last, rfl, ?_⟩
    by_contra early
    obtain ⟨least, rfl, _⟩ := found last (List.mem_of_getLast? isLast)
    obtain ⟨place, rfl, readable⟩ := found offset acked
    obtain ⟨later, delivered⟩ := exists_hasDelivered reading starts (by omega) (by omega)
      (readable.after [.step (.pollLoop n)])
    refine never later ?_
    rw [after_append, after_cons]
    exact delivered
  · rintro ⟨_, same, beyond⟩ later delivered
    cases same
    rw [after_append, after_cons] at delivered
    have follower := HasFollower.after ⟨consumerAfter, clientAfter, reading.there, reading.follows⟩
      later
    rw [Option.some_or] at follower
    have least := start_le_of_hasDelivered follower starts delivered
    omega

/-- A consumer of the group `g` is made. -/
def joining : Action :=
  .addConsumer .unit (.memory [("consumer", .mapping [("group_id", .text "g")])]) "scope"

/-- A consumer receives two records and acknowledges them in the given order of receipts. -/
def twoAcked (first second : Nat) : List Action :=
  let turn : Action := .step (.pollLoop 0)
  let receiving : List Action := [turn, turn, turn, .receive 0]
  [.register .unit "beat", .append "beat" none (Scan.letters "null"),
    .append "beat" none (Scan.letters "null"), joining, .openConsumer 0] ++ receiving ++
    receiving ++ [.ack 0 first, .ack 0 second]

/-- Another consumer of the group is made and opened, and begins its first poll. -/
def rejoining : List Action :=
  [joining, .openConsumer 1, .step (.pollLoop 1)]

/-- Acknowledged in the order of the log, the first record is not delivered again. -/
theorem acked_in_order_not_delivered_again :
    (ofRegistry .empty).acks "g" "beat" (twoAcked 0 1 ++ rejoining) = [0, 1] ∧
      ∀ later, ¬((ofRegistry .empty).after
        ((twoAcked 0 1 ++ rejoining) ++ .step (.pollLoop 1) :: later)).HasDelivered 1 0 := by
  refine ⟨by rfl, ?_⟩
  refine (acked_not_delivered_again_iff (twoAcked 0 1 ++ rejoining) "g" 1 _ _ 0
    ?_ ?_ rfl rfl rfl rfl ?_ ?_).mpr ⟨1, ?_, by decide⟩
  · decide
  · decide
  · decide
  · decide
  · rfl

/-- Even if everything that was delivered to a group was acknowledged, a consumer of the group
that is opened after that can deliver some of it again: here the record that was acknowledged
first. -/
theorem acked_delivered_again :
    ¬∀ (actions later : List Action) (group topic : String) (n : Nat) (offset : Int),
      (ofRegistry .empty).OnlyAcks group topic (actions ++ later) →
      offset ∈ (ofRegistry .empty).acks group topic actions →
      (∀ larger ∈ ((ofRegistry .empty).after actions).deliveredTo group topic, offset < larger →
        larger ∈ (ofRegistry .empty).acks group topic actions) →
      (∀ consumer, ((ofRegistry .empty).after actions).consumers[n]? = some consumer →
        consumer.isOpened = false) →
      ∀ consumer, ((ofRegistry .empty).after (actions ++ later)).consumers[n]? = some consumer →
        consumer.source.group? = some group → consumer.topic.name = topic →
          offset ∉ consumer.delivered := by
  intro law
  refine law (twoAcked 1 0)
    (rejoining ++ [.step (.pollLoop 1), .step (.pollLoop 1), .receive 1])
    "g" "beat" 1 1 ?_ ?_ ?_ ?_ _ rfl rfl rfl ?_
  · decide
  · decide
  · decide
  · intro consumer there
    cases there
  · decide

end System

end TopicBus
