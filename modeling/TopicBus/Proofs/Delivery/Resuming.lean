import TopicBus.Proofs.Delivery.Beginning
import TopicBus.Proofs.Delivery.Commits

/-!
# Where a group goes on

As long as only positions of delivered messages are committed, every committed offset of a group
is behind some record of the log and not beyond its end: it is that of the next record to be
read. A consumer of the group that polls for the first time begins with that record, whatever
its policy is, and if the record is not there yet it waits for it.
-/

namespace TopicBus

/-! ## Commits of delivered messages -/

/-- The position that an action names to be committed. -/
def Action.named? : Action → Option Token
  | .commit _ token | .commitClient _ token => some token
  | _ => none

/-- A position is that of a record which is there. -/
def Broker.HasRecord (broker : Broker) (token : Token) : Prop :=
  ∃ offset : Nat, token.offset = offset ∧ offset < broker.size token.topic

theorem Broker.HasRecord.grow {broker after : Broker} {token : Token}
    (isThere : broker.HasRecord token) (grown : broker.log token.topic <+: after.log token.topic) :
    after.HasRecord token := by
  obtain ⟨offset, same, inside⟩ := isThere
  exact ⟨offset, same, Nat.lt_of_lt_of_le inside grown.length_le⟩

/-- Every commit is of a record that is there. -/
def Broker.IsSound (broker : Broker) : Prop :=
  ∀ commit ∈ broker.commits, broker.HasRecord commit.token

/-- A group goes on behind a record that is there. -/
theorem Broker.IsSound.committed_bounds {broker : Broker} (sound : broker.IsSound)
    {group topic : String} {offset : Int}
    (committed : broker.committed? group topic = some offset) :
    1 ≤ offset ∧ offset ≤ broker.size topic := by
  obtain ⟨commit, last, rfl⟩ := Option.map_eq_some_iff.mp committed
  have found := List.mem_filter.mp (List.mem_of_getLast? last)
  obtain ⟨place, same, inside⟩ := sound commit found.1
  have here : commit.group = group ∧ commit.token.topic = topic := by simpa using found.2
  rw [here.2] at inside
  omega

/-- Only who uses the broker inside the process commits for a group there. -/
theorem Source.group?_eq_some_iff {source : Source} {group : String} :
    source.group? = some group ↔ ∃ client, source = .memory client ∧ client.group = some group := by
  cases source with
  | memory client => simp [group?]
  | scripted script => simp [group?]
  | remote group => simp [group?]

namespace System

/-- Whether a position is that of a message which a consumer of the broker has given to the
application. -/
def isDelivered (system : System) (token : Token) : Bool :=
  system.consumers.any fun consumer =>
    consumer.source.isMemory && consumer.received.any fun message => message.token = some token

/-- Whether every position that is named in a run to be committed is that of a message delivered
before. -/
def commitsDelivered (system : System) : List Action → Bool
  | [] => true
  | action :: rest =>
      action.named?.all system.isDelivered && (system.next action).commitsDelivered rest

variable {system : System} {n : Nat}

/-- A message that was received has the position of a record that is there. -/
private theorem hasRecord_of_received (readers : system.ReadersFollow) {consumer : Consumer}
    {client : Client} {message : Message} {token : Token}
    (there : system.consumers[n]? = some consumer) (memory : consumer.source = .memory client)
    (received : message ∈ consumer.received) (carried : message.token = some token) :
    system.broker.HasRecord token := by
  obtain ⟨settings, polled, follows⟩ := readers there memory
  obtain ⟨offset, stored, found, made⟩ := follows.mem_received received
  rw [consumer.topic.message?_token made] at carried
  cases carried
  exact ⟨offset, rfl, (List.getElem?_eq_some_iff.mp found).1⟩

private theorem hasRecord_of_isDelivered (readers : system.ReadersFollow) {token : Token}
    (delivered : system.isDelivered token = true) : system.broker.HasRecord token := by
  obtain ⟨consumer, member, given⟩ := List.any_eq_true.mp delivered
  obtain ⟨isMemory, received⟩ := (Bool.and_eq_true _ _).mp given
  obtain ⟨message, among, carried⟩ := List.any_eq_true.mp received
  obtain ⟨client, memory⟩ := Source.isMemory_iff.mp isMemory
  obtain ⟨m, there⟩ := List.getElem?_of_mem member
  exact hasRecord_of_received readers there memory among (by simpa using carried)

private theorem hasRecord_of_committed (readers : system.ReadersFollow) {action : Action}
    {commit : Commit} (delivered : action.named?.all system.isDelivered = true)
    (committed : system.committedBy? action = some commit) :
    system.broker.HasRecord commit.token := by
  have requested : system.requested? action = some commit := by
    unfold committedBy? at committed
    split at committed
    · exact committed
    · cases committed
  cases action with
  | ack n receipt =>
      simp only [requested?, Consumer.commits?, Option.bind_eq_bind, Option.bind_eq_some_iff]
        at requested
      obtain ⟨consumer, there, ⟨group, token⟩, commits, made⟩ := requested
      obtain ⟨receipt, found, token, carried, group, inGroup, unacked⟩ := commits
      obtain ⟨client, memory, _⟩ := Source.group?_eq_some_iff.mp inGroup
      have received : receipt.message ∈ consumer.received :=
        List.mem_map_of_mem (List.mem_of_getElem? found)
      split at unacked
      · cases unacked
      · cases unacked
        cases made
        exact hasRecord_of_received readers there memory received carried
  | commit n token =>
      simp only [requested?, Option.bind_eq_bind, Option.bind_eq_some_iff] at requested
      obtain ⟨consumer, _, group, _, made⟩ := requested
      cases made
      exact hasRecord_of_isDelivered readers delivered
  | commitClient n token =>
      simp only [requested?, Option.bind_eq_bind, Option.bind_eq_some_iff] at requested
      obtain ⟨client, _, group, _, made⟩ := requested
      cases made
      exact hasRecord_of_isDelivered readers delivered
  | _ => cases requested

theorem isSound_next (readers : system.ReadersFollow) (sound : system.broker.IsSound)
    {action : Action} (delivered : action.named?.all system.isDelivered = true) :
    (system.next action).broker.IsSound := by
  intro commit member
  rw [commits_next] at member
  have isThere : system.broker.HasRecord commit.token := by
    rcases List.mem_append.mp member with before | now
    · exact sound commit before
    · exact hasRecord_of_committed readers delivered (Option.mem_toList.mp now)
  exact isThere.grow ((system.next_broker action).log_grows commit.token.topic)

private theorem polled?_eq_some {action : Action} {broker : Broker}
    (asked : system.polled? n action = some broker) : broker = system.broker := by
  unfold polled? at asked
  split at asked
  · split at asked
    · exact (Option.some.inj asked).symm
    · cases asked
  · cases asked

/-- After any run every commit is of a record that is there, and so it was at the first poll of
any consumer. -/
theorem isSound_after (readers : system.ReadersFollow) (sound : system.broker.IsSound)
    {actions : List Action} (delivered : system.commitsDelivered actions = true) :
    (system.after actions).broker.IsSound ∧
      ∀ n first, system.firstPolled? n actions = some first → first.IsSound := by
  induction actions generalizing system with
  | nil =>
      refine ⟨sound, ?_⟩
      intro n first polled
      cases polled
  | cons action rest inductionHypothesis =>
      obtain ⟨now, later⟩ := (Bool.and_eq_true _ _).mp delivered
      have further :=
        inductionHypothesis (readers.next action) (isSound_next readers sound now) later
      refine ⟨further.1, ?_⟩
      intro n first polled
      rw [firstPolled?] at polled
      rcases Option.or_eq_some_iff.mp polled with asked | ⟨_, polledLater⟩
      · rw [polled?_eq_some asked]
        exact sound
      · exact further.2 n first polledLater

/-! ## The committed offset and the consumers of a group -/

/-- The committed offset of a group is behind its last successful commit. -/
theorem committed?_after (registry : Registry) (actions : List Action) (group topic : String) :
    ((ofRegistry registry).after actions).broker.committed? group topic =
      (((ofRegistry registry).commitsMade actions).filter fun commit =>
        commit.group = group ∧ commit.token.topic = topic).getLast?.map fun commit =>
          commit.token.offset + 1 := by
  have made := (ofRegistry registry).commits_after actions
  unfold Broker.committed?
  rw [made]
  rfl

/-- A group that has committed starts there, whatever its policy is. -/
private theorem start?_of_committed? {broker : Broker} {settings : Settings.Consumer}
    {group topic : String} {offset : Int} (grouped : settings.group = some group)
    (committed : broker.committed? group topic = some offset) :
    broker.start? settings topic = some offset := by
  simp [Broker.start?, grouped, committed]

/-- Only positions of delivered messages are committed in a run. Then at any time a group goes
on behind its last successful commit, which is of a record that is there. And a consumer that
has polled for the first time while its group had committed an offset, whatever its policy is,
has fetched the record at this offset before any other, at once if the record was there at the
first poll. As long as the record is not there it has fetched nothing, and it fetches the record
with the next poll after that. -/
theorem resumed_at_committed (registry : Registry) (actions : List Action)
    (delivered : (ofRegistry registry).commitsDelivered actions = true) :
    let final := (ofRegistry registry).after actions
    (∀ group topic,
      final.broker.committed? group topic =
        (((ofRegistry registry).commitsMade actions).filter fun commit =>
          commit.group = group ∧ commit.token.topic = topic).getLast?.map
            (fun commit => commit.token.offset + 1) ∧
      ∀ offset, final.broker.committed? group topic = some offset →
        1 ≤ offset ∧ offset ≤ final.broker.size topic) ∧
    ∀ n consumer client group first offset,
      final.consumers[n]? = some consumer → consumer.source = .memory client →
      client.group = some group → (ofRegistry registry).firstPolled? n actions = some first →
      first.committed? group consumer.topic.name = some offset →
        let topic := consumer.topic.name
        let fetched := fetchedOf (happeningsOf (.consumer n) ((ofRegistry registry).events actions))
        let next := fetchedOf (happeningsOf (.consumer n) (final.act (.step (.pollLoop n))).2.2)
        ∃ start : Nat, offset = start ∧
          (∀ record ∈ fetched.head?, ∃ stored, (final.broker.log topic)[start]? = some stored ∧
            record = stored.toRecord ⟨topic, 0, start⟩) ∧
          (start < first.size topic → fetched ≠ []) ∧
          (final.broker.size topic ≤ start → fetched = []) ∧
          (fetched = [] → start < final.broker.size topic → final.isPolling consumer = true →
            ∃ stored, (final.broker.log topic)[start]? = some stored ∧
              next = [stored.toRecord ⟨topic, 0, start⟩]) := by
  intro final
  have readers := readersFollow_ofRegistry registry
  have sound : (ofRegistry registry).broker.IsSound := by
    intro commit member
    cases member
  obtain ⟨soundAfter, soundAtFirst⟩ := isSound_after readers sound delivered
  constructor
  · intro group topic
    exact ⟨committed?_after registry actions group topic, fun _ => soundAfter.committed_bounds⟩
  · intro n consumer client group first offset there memory inGroup polled committed topic fetched
      next
    obtain ⟨least, _⟩ := (soundAtFirst n first polled).committed_bounds committed
    obtain ⟨start, rfl⟩ := Int.eq_ofNat_of_zero_le (Int.le_trans Int.one_nonneg least)
    have absent : (ofRegistry registry).consumers[n]? = none := rfl
    obtain ⟨settings, follows, begins⟩ := beginsAtStart_of_absent absent there memory
    rw [polled] at begins
    have starts := start?_of_committed? (follows.group.symm.trans inGroup) committed
    refine ⟨start, rfl, ?_⟩
    rcases (begins start starts).waiting_or_begun with ⟨nothing, placed, beyond⟩ |
      ⟨stored, rest, found, shape⟩
    · have nothing : fetched = [] := nothing
      refine ⟨?_, fun early => absurd early (Nat.not_lt.mpr beyond), fun _ => nothing, ?_⟩
      · rw [nothing]
        intro record member
        cases member
      · intro _ inside polling
        have found := List.getElem?_eq_getElem inside
        exact ⟨_, found, fetched_of_waiting there follows placed polling found⟩
    · have shape : fetched = stored.toRecord ⟨topic, 0, start⟩ :: rest := shape
      have inside := (List.getElem?_eq_some_iff.mp found).1
      rw [shape]
      refine ⟨?_, fun _ => List.cons_ne_nil _ _,
        fun beyond => absurd inside (Nat.not_lt.mpr beyond),
        fun nothing => absurd nothing (List.cons_ne_nil _ _)⟩
      intro record member
      cases member
      exact ⟨stored, found, rfl⟩

/-- A message is received and its position is committed, and then another consumer of the group
polls. -/
def committedThenPolled : List Action :=
  [.append "beat" none (Scan.letters "null"), .append "beat" none (Scan.letters "null"), joining,
    .openConsumer 0, .step (.pollLoop 0), .step (.pollLoop 0), .step (.pollLoop 0), .receive 0,
    .commit 0 ⟨"beat", 0, 0⟩, joining, .openConsumer 1, .step (.pollLoop 1), .step (.pollLoop 1)]

theorem resumed_at_committed_second_record :
    let start := ofRegistry ⟨[(.unit, "beat")], [("beat", .unit)]⟩
    start.commitsDelivered committedThenPolled = true ∧
      (start.after committedThenPolled).broker.committed? "g" "beat" = some 1 ∧
      ∃ record, (fetchedOf (happeningsOf (.consumer 1)
        (start.events committedThenPolled))).head? = some record ∧
          record.token = ⟨"beat", 0, 1⟩ := by
  intro start
  have delivered : start.commitsDelivered committedThenPolled = true := by decide +kernel
  have committed : (start.after committedThenPolled).broker.committed? "g" "beat" = some 1 := by
    decide +kernel
  refine ⟨delivered, committed, ?_⟩
  obtain ⟨_, resumed⟩ :=
    resumed_at_committed ⟨[(.unit, "beat")], [("beat", .unit)]⟩ committedThenPolled delivered
  obtain ⟨place, same, head, begun, _⟩ := resumed 1 _ _ "g" _ 1 rfl rfl rfl rfl (by decide +kernel)
  obtain rfl : place = 1 := (Int.ofNat.inj same).symm
  obtain ⟨record, rest, shape⟩ := List.exists_cons_of_ne_nil (begun (by decide +kernel))
  obtain ⟨stored, _, made⟩ := head record (by rw [shape]; rfl)
  refine ⟨record, ?_, ?_⟩
  · rw [shape]
    rfl
  · rw [made]
    rfl

end System

end TopicBus
