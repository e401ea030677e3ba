import TopicBus.Proofs.Delivery.Receipts

/-!
# Acknowledging a message

A group commits what its consumers acknowledge for the first time. Where nothing else commits,
it goes on behind the message whose first acknowledgement came last. To commit by the token of a
message does the same as to acknowledge it as long as that was not done; after that it moves the
group back to the token, which an acknowledgement does not.
-/

namespace TopicBus.System

variable {system : System} {n k : Nat} {consumer : Consumer} {receipt : Receipt}
  {group topic : String}

/-! ## What the first acknowledgements commit -/

/-- The offset of a received message, if a consumer of a group has received it from a topic. -/
def offsetFor? (system : System) (group topic : String) (message : Nat × Nat) : Option Int := do
  let consumer ← system.consumers[message.1]?
  let receipt ← consumer.receipts[message.2]?
  let token ← receipt.message.token
  if consumer.source.group? = some group ∧ token.topic = topic then some token.offset else none

private theorem acks_append (system : System) (group topic : String) (first second : List Action) :
    system.acks group topic (first ++ second) =
      system.acks group topic first ++ (system.after first).acks group topic second := by
  induction first generalizing system with
  | nil => rfl
  | cons action rest inductionHypothesis =>
      simp only [List.cons_append, acks, after_cons, inductionHypothesis, List.append_assoc]

/-- What was received once keeps its offset. -/
private theorem offsetFor?_next (readers : system.ReadersFollow)
    (there : system.consumers[n]? = some consumer) (inside : k < consumer.receipts.length)
    (action : Action) :
    (system.next action).offsetFor? group topic (n, k) = system.offsetFor? group topic (n, k) := by
  obtain ⟨after, thereAfter, keeps⟩ := receipts_next there action
  obtain ⟨again, thereToo, sameGroup⟩ := consumer_group_next readers there action
  obtain rfl : again = after := Option.some.inj (thereToo.symm.trans thereAfter)
  have messages :
      again.receipts[k]?.map Receipt.message = consumer.receipts[k]?.map Receipt.message := by
    generalize again.receipts = receipts at keeps
    cases keeps with
    | more fresh unacked => rw [List.getElem?_append_left inside]
    | @acked j receipt found =>
        by_cases same : j = k
        · subst same
          rw [List.getElem?_set_self inside, found]
          rfl
        · rw [List.getElem?_set_ne same]
  unfold offsetFor?
  simp only [there, thereAfter, sameGroup, Option.bind_eq_bind, Option.bind_some]
  cases before : consumer.receipts[k]? with
  | none => exact absurd inside (Nat.not_lt.mpr (List.getElem?_eq_none_iff.mp before))
  | some receipt =>
      rw [before] at messages
      obtain ⟨marked, found, same⟩ := Option.map_eq_some_iff.mp messages
      simp only [found, Option.bind_some, same]

private theorem acked?_of_unanswered {action : Action}
    (unanswered : system.acknowledges? action = none) :
    system.acked? group topic action = none := by
  cases action with
  | ack n k =>
      cases there : system.consumers[n]? with
      | none => simp [acked?, there]
      | some consumer =>
          cases found : consumer.receipts[k]? with
          | none => simp [acked?, there, Consumer.commits?, found]
          | some receipt =>
              obtain ⟨done, acking⟩ : ∃ done, consumer.ack? system.broker k = some done := by
                simp [Consumer.ack?, found]
              simp [acknowledges?, act, ack, there, acking] at unanswered
  | _ => rfl

/-- Only the first acknowledgement of a message commits its offset. -/
private theorem Marks.acked?_eq {made : List (Nat × Nat)} (marks : system.Marks made)
    (there : system.consumers[n]? = some consumer) (found : consumer.receipts[k]? = some receipt) :
    system.acked? group topic (.ack n k) =
      if (n, k) ∈ made then none else system.offsetFor? group topic (n, k) := by
  simp only [acked?, offsetFor?, there, found, Consumer.commits?, Option.bind_eq_bind,
    Option.bind_some]
  cases grouped : consumer.source.group? with
  | none => simp
  | some other =>
      obtain ⟨client, memory, _⟩ := Source.group?_eq_some_iff.mp grouped
      have marked := marks.marked there (Source.isMemory_iff.mpr ⟨client, memory⟩) found
      by_cases before : (n, k) ∈ made
      · simp [before, marked.mpr ⟨before, by simp [grouped]⟩]
      · have unacked : receipt.isAcked = false := by simpa [before] using marked
        cases carried : receipt.message.token with
        | none => simp
        | some token => simp [before, unacked]

/-- The offsets that a group acknowledges on a topic are those of its messages there, each at
its first acknowledgement. -/
theorem acks_eq_offsets (registry : Registry) (actions : List Action) (group topic : String) :
    (ofRegistry registry).acks group topic actions =
      ((ofRegistry registry).acknowledged actions).eraseDups.filterMap
        (((ofRegistry registry).after actions).offsetFor? group topic) := by
  induction actions using List.reverseRecOn with
  | nil => rfl
  | append_singleton earlier action inductionHypothesis =>
      have readers := (readersFollow_ofRegistry registry).after earlier
      have marks := marks_after registry earlier
      rw [acks_append, acknowledged_append, after_append, inductionHypothesis]
      generalize (ofRegistry registry).after earlier = system at readers marks
      generalize (ofRegistry registry).acknowledged earlier = made at marks
      have kept : made.eraseDups.filterMap ((system.next action).offsetFor? group topic) =
          made.eraseDups.filterMap (system.offsetFor? group topic) := by
        refine List.filterMap_congr fun message member => ?_
        obtain ⟨consumer, there, inside⟩ := marks.received (List.mem_eraseDups.mp member)
        exact offsetFor?_next readers there inside action
      simp only [acks, acknowledged, List.append_nil, after_cons, after_nil,
        List.eraseDups_append, List.filterMap_append, kept, List.append_cancel_left_eq]
      cases acked : system.acknowledges? action with
      | none => simp [acked?_of_unanswered acked]
      | some message =>
          obtain ⟨n, k⟩ := message
          obtain ⟨rfl, consumer, receipt, there, found⟩ := acknowledges?_eq_some acked
          rw [marks.acked?_eq there found]
          by_cases before : (n, k) ∈ made
          · simp [List.removeAll, before]
          · have inside : k < consumer.receipts.length := (List.getElem?_eq_some_iff.mp found).1
            have same : (system.next (.ack n k)).offsetFor? group topic (n, k) =
                system.offsetFor? group topic (n, k) :=
              offsetFor?_next readers there inside (.ack n k)
            cases offset : system.offsetFor? group topic (n, k) with
            | none => simp [List.removeAll, before, List.eraseDups_cons, same, offset]
            | some offset => simp [List.removeAll, before, List.eraseDups_cons, same, offset]

/-! ## The theorems -/

/-- After any run, whether the consumer was closed or dropped or neither: a message that a
consumer of a group has received is marked just if it was acknowledged, its next acknowledgement
succeeds, and it commits the position behind the record if it is the first one and changes
nothing at all otherwise. So, where nothing else commits, a group goes on behind the message
whose first acknowledgement came last. Without a group no message is ever marked, and every
acknowledgement fails to commit and changes nothing at all. -/
theorem acknowledged_once (registry : Registry) (actions : List Action) :
    let final := (ofRegistry registry).after actions
    let acked := (ofRegistry registry).acknowledged actions
    (∀ n consumer k receipt, final.consumers[n]? = some consumer →
      consumer.source.isMemory = true → consumer.receipts[k]? = some receipt →
        ∃ offset : Nat, receipt.message.token = some ⟨consumer.topic.name, 0, offset⟩ ∧
          (∀ group, consumer.source.group? = some group →
            (receipt.isAcked = true ↔ (n, k) ∈ acked) ∧
            (final.act (.ack n k)).1 = .outcome (.ok ()) ∧
            ((n, k) ∉ acked → ∀ other topic,
              (final.next (.ack n k)).broker.committed? other topic =
                if group = other ∧ consumer.topic.name = topic then some ((offset : Int) + 1)
                else final.broker.committed? other topic) ∧
            ((n, k) ∈ acked → final.next (.ack n k) = final)) ∧
          (consumer.source.group? = none →
            receipt.isAcked = false ∧
            (final.act (.ack n k)).1 = .outcome (.error (.commit .noGroup)) ∧
            final.next (.ack n k) = final)) ∧
      ∀ group topic, (ofRegistry registry).OnlyAcks group topic actions →
        final.broker.committed? group topic =
          (acked.eraseDups.filterMap (final.offsetFor? group topic)).getLast?.map (· + 1) := by
  intro final acked
  have readers : final.ReadersFollow := (readersFollow_ofRegistry registry).after actions
  have marks : final.Marks acked := marks_after registry actions
  constructor
  · intro n consumer k receipt there isMemory found
    obtain ⟨offset, carried⟩ := token_of_received readers there isMemory found
    have marked := marks.marked there isMemory found
    refine ⟨offset, carried, ?_, ?_⟩
    · intro group inGroup
      have known : receipt.isAcked = true ↔ (n, k) ∈ acked := by simpa [inGroup] using marked
      refine ⟨known, ?_, ?_, ?_⟩
      · cases isAcked : receipt.isAcked with
        | true => rw [act_ack_again there found isAcked]
        | false => rw [act_ack_first there found isAcked carried inGroup]
      · intro first other topic
        have unacked : receipt.isAcked = false := by simpa using mt known.mp first
        rw [next, act_ack_first there found unacked carried inGroup]
        exact Broker.committed?_commit _ _ _ _ _
      · intro again
        rw [next, act_ack_again there found (known.mpr again)]
    · intro ungrouped
      have unacked : receipt.isAcked = false := by simpa [ungrouped] using marked
      have done := act_ack_of_no_group there found unacked carried isMemory ungrouped
      refine ⟨unacked, ?_, ?_⟩
      · rw [done]
      · rw [next, done]
  · intro group topic onlyAcks
    rw [Broker.committed?_eq, onlyAcks.commitsFor_after, acks_eq_offsets]
    rfl

/-- A message is acknowledged twice, the consumer is closed, and both of its messages are
acknowledged. -/
def ackedAroundClose : List Action :=
  twoAcked 0 0 ++
    [.closeConsumer 0, .step (.pollLoop 0), .step (.closeConsumer 0), .ack 0 1, .ack 0 0]

theorem acknowledged_once_around_close :
    let final := (ofRegistry .empty).after ackedAroundClose
    (ofRegistry .empty).acknowledged ackedAroundClose = [(0, 0), (0, 0), (0, 1), (0, 0)] ∧
      final.broker.committed? "g" "beat" = some 2 ∧ final.next (.ack 0 0) = final := by
  intro final
  have acked : (ofRegistry .empty).acknowledged ackedAroundClose =
      [(0, 0), (0, 0), (0, 1), (0, 0)] := by
    decide
  obtain ⟨each, committed⟩ := acknowledged_once .empty ackedAroundClose
  refine ⟨acked, ?_, ?_⟩
  · rw [committed "g" "beat" (by decide)]
    decide
  · obtain ⟨offset, _, inGroup, _⟩ := each 0 _ 0 _ rfl rfl rfl
    exact (inGroup "g" rfl).2.2.2 (by rw [acked]; decide)

/-! ## Committing by a token -/

private theorem act_commit_of_group {group : String} (there : system.consumers[n]? = some consumer)
    (isHeld : consumer.isHeld = true) (inGroup : consumer.source.group? = some group)
    (token : Token) :
    system.act (.commit n token) =
      (.outcome (.ok ()), { system with broker := system.broker.commit group token }, []) := by
  have committing := Consumer.commit_of_group inGroup system.broker token
  simp only [act, commit, there, isHeld, if_true, committing, setConsumer_same there]

private theorem act_commit_of_no_group (there : system.consumers[n]? = some consumer)
    (isHeld : consumer.isHeld = true) (isMemory : consumer.source.isMemory = true)
    (ungrouped : consumer.source.group? = none) (token : Token) :
    system.act (.commit n token) = (.outcome (.error (.commit .noGroup)), system, []) := by
  have committing := Consumer.commit_of_no_group isMemory ungrouped system.broker token
  simp only [act, commit, there, isHeld, if_true, committing, setConsumer_same there]

/-- In every state that is reached, to commit by the token of a message is answered as its
acknowledgement is. The committed offsets are the same after both just if the message was not
acknowledged yet, there is no group, or the group is still to go on behind this very message. -/
theorem commit_as_ack_iff (registry : Registry) (actions : List Action) (n k : Nat)
    (consumer : Consumer) (receipt : Receipt) (token : Token)
    (there : ((ofRegistry registry).after actions).consumers[n]? = some consumer)
    (isMemory : consumer.source.isMemory = true) (isHeld : consumer.isHeld = true)
    (found : consumer.receipts[k]? = some receipt) (carried : receipt.message.token = some token) :
    let final := (ofRegistry registry).after actions
    (∃ result, (final.act (.commit n token)).1 = .outcome result ∧
      (final.act (.ack n k)).1 = .outcome result) ∧
    ((∀ group topic, (final.next (.commit n token)).broker.committed? group topic =
        (final.next (.ack n k)).broker.committed? group topic) ↔
      (receipt.isAcked = true → ∀ group, consumer.source.group? = some group →
        final.broker.committed? group token.topic = some (token.offset + 1))) := by
  intro final
  have marked := (marks_after registry actions).marked there isMemory found
  cases grouped : consumer.source.group? with
  | none =>
      have unacked : receipt.isAcked = false := by simpa [grouped] using marked
      have acking := act_ack_of_no_group there found unacked carried isMemory grouped
      have committing := act_commit_of_no_group there isHeld isMemory grouped token
      refine ⟨⟨_, congrArg Prod.fst committing, congrArg Prod.fst acking⟩, ?_⟩
      simp [final, next, committing, acking]
  | some group =>
      have committing := act_commit_of_group there isHeld grouped token
      cases isAcked : receipt.isAcked with
      | false =>
          have acking := act_ack_first there found isAcked carried grouped
          refine ⟨⟨_, congrArg Prod.fst committing, congrArg Prod.fst acking⟩, ?_⟩
          simp [final, next, committing, acking]
      | true =>
          have acking := act_ack_again there found isAcked
          refine ⟨⟨_, congrArg Prod.fst committing, congrArg Prod.fst acking⟩, ?_⟩
          simp only [final, next, committing, acking, Broker.committed?_commit]
          constructor
          · rintro same - other inGroup
            cases inGroup
            simpa using (same group token.topic).symm
          · intro last other topic
            split
            · rename_i here
              obtain ⟨rfl, rfl⟩ := here
              exact (last trivial group rfl).symm
            · rfl

/-- The message that was acknowledged last may be committed once more. -/
theorem commit_as_ack_of_last :
    let final := (ofRegistry .empty).after (twoAcked 0 1)
    ∀ group topic, (final.next (.commit 0 ⟨"beat", 0, 1⟩)).broker.committed? group topic =
      (final.next (.ack 0 1)).broker.committed? group topic := by
  intro final
  refine (commit_as_ack_iff .empty (twoAcked 0 1) 0 1 _ _ _ rfl rfl rfl rfl rfl).2.mpr ?_
  intro _ group inGroup
  cases inGroup
  decide

/-- A commit by the token of a message that was acknowledged before moves the group back to it,
and the acknowledgement of the message does not. -/
theorem commit_not_as_ack :
    ¬∀ (registry : Registry) (actions : List Action) (n k : Nat) (consumer : Consumer)
      (receipt : Receipt) (token : Token),
      ((ofRegistry registry).after actions).consumers[n]? = some consumer →
      consumer.source.isMemory = true → consumer.isHeld = true →
      consumer.receipts[k]? = some receipt → receipt.message.token = some token →
        (((ofRegistry registry).after actions).act (.commit n token)).1 =
            (((ofRegistry registry).after actions).act (.ack n k)).1 ∧
          ∀ group topic,
            (((ofRegistry registry).after actions).next (.commit n token)).broker.committed? group
                topic =
              (((ofRegistry registry).after actions).next (.ack n k)).broker.committed? group
                topic := by
  intro law
  have same := (law .empty (twoAcked 0 1) 0 0 _ _ _ rfl rfl rfl rfl rfl).2 "g" "beat"
  revert same
  decide

end TopicBus.System
