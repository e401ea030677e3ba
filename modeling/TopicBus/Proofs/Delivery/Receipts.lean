import TopicBus.Proofs.Delivery.Resuming
import TopicBus.Proofs.Delivery.Stopping

/-!
# Receipts

What the application has received of a consumer is written on receipts, which come one after
another and stay. The first acknowledgement of a message commits the position behind its record
and marks the receipt, and every repetition is answered alike and changes nothing. So after any
run a receipt is marked just if its message was acknowledged before and there is a group to
commit for.
-/

namespace TopicBus

/-! ## One acknowledgement -/

namespace Consumer

variable {consumer : Consumer} {k : Nat} {receipt : Receipt} {token : Token}

/-- The consumer after the receipt with a number was marked. -/
def marked (consumer : Consumer) (k : Nat) (receipt : Receipt) : Consumer :=
  { consumer with receipts := consumer.receipts.set k { receipt with isAcked := true } }

theorem commit_of_group {group : String} (inGroup : consumer.source.group? = some group)
    (broker : Broker) (token : Token) :
    consumer.commit broker token = (.ok (), consumer, broker.commit group token) := by
  simp only [commit, Source.commit_of_group inGroup]

theorem commit_of_no_group (isMemory : consumer.source.isMemory = true)
    (ungrouped : consumer.source.group? = none) (broker : Broker) (token : Token) :
    consumer.commit broker token = (.error (.commit .noGroup), consumer, broker) := by
  obtain ⟨client, memory⟩ := Source.isMemory_iff.mp isMemory
  have inNone : client.group = none := by simpa [memory, Source.group?] using ungrouped
  simp only [commit, memory, Source.commit, Client.commit, inNone, Except.mapError]
  rw [← memory]

theorem ack?_first {group : String} (found : consumer.receipts[k]? = some receipt)
    (unacked : receipt.isAcked = false) (carried : receipt.message.token = some token)
    (inGroup : consumer.source.group? = some group) (broker : Broker) :
    consumer.ack? broker k =
      some (.ok (), consumer.marked k receipt, broker.commit group token) :=
  ack?_marked found unacked carried (commit_of_group inGroup broker token)

theorem ack?_of_no_group (found : consumer.receipts[k]? = some receipt)
    (unacked : receipt.isAcked = false) (carried : receipt.message.token = some token)
    (isMemory : consumer.source.isMemory = true) (ungrouped : consumer.source.group? = none)
    (broker : Broker) :
    consumer.ack? broker k = some (.error (.commit .noGroup), consumer, broker) :=
  ack?_failed found unacked carried (commit_of_no_group isMemory ungrouped broker token)

/-! ## What becomes of the receipts -/

/-- An acknowledgement marks the receipt, or it leaves all of them as they are. -/
private theorem ack?_receipts {broker brokerAfter : Broker} {after : Consumer}
    {result : Except Fault Unit}
    (done : consumer.ack? broker k = some (result, after, brokerAfter)) :
    after.receipts = consumer.receipts ∨
      ∃ receipt, consumer.receipts[k]? = some receipt ∧
        after.receipts = consumer.receipts.set k { receipt with isAcked := true } := by
  cases ack?_acking done with
  | again found isAcked => exact .inl rfl
  | unmade found unacked missing => exact .inl rfl
  | failed found unacked carried committing => exact .inl (receipts_commit committing)
  | @marked receipt token after broker found unacked carried committing =>
      exact .inr ⟨receipt, found, rfl⟩

/-- Receipts come at the end, unmarked, and only an acknowledgement marks one. -/
inductive Keeps (n : Nat) (before : List Receipt) : Action → List Receipt → Prop
  | more {action : Action} (fresh : List Receipt)
      (unacked : ∀ receipt ∈ fresh, receipt.isAcked = false) :
      Keeps n before action (before ++ fresh)
  | acked {k : Nat} {receipt : Receipt} (found : before[k]? = some receipt) :
      Keeps n before (.ack n k) (before.set k { receipt with isAcked := true })

theorem keeps_same {n : Nat} {action : Action} {before after : List Receipt}
    (same : after = before) : Keeps n before action after := by
  have none : Keeps n before action (before ++ []) := .more [] (by simp)
  rw [List.append_nil] at none
  rw [same]
  exact none

private theorem handle_receipts (consumer : Consumer) (record : Record) :
    (consumer.handle record).1.receipts = consumer.receipts := by
  unfold handle
  split
  · rfl
  · split <;> rfl

private theorem look_receipts (consumer : Consumer) (now : Nat) (broker : Broker) :
    (consumer.look now broker).1.receipts = consumer.receipts := by
  unfold look
  cases consumer.source.poll broker with
  | mk polled source =>
      cases polled with
      | record record => exact handle_receipts _ record
      | failed fault => rfl
      | nothing | idle | crashed => rfl

theorem Changes.keeps {system : System} {n : Nat} {after : Consumer} {action : Action}
    {reply : Reply} {happenings : List Happening} {brokerAfter : Broker}
    (changed : consumer.Changes system n action reply happenings after brokerAfter) :
    Keeps n consumer.receipts action after.receipts := by
  cases changed with
  | opened opens =>
      apply keeps_same
      cases opens <;> rfl
  | received canReceive taken =>
      obtain ⟨popped, _, same⟩ := Option.map_eq_some_iff.mp taken
      cases same
      exact .more [⟨_, false⟩] (by simp)
  | closeBegun isHeld first =>
      apply keeps_same
      unfold beginClose
      simp only [first]
      split <;> rfl
  | acked done =>
      rcases ack?_receipts done with same | ⟨receipt, found, marked⟩
      · exact keeps_same same
      · rw [marked]
        exact .acked found
  | committed done =>
      cases done
      exact keeps_same rfl
  | looped moved =>
      apply keeps_same
      cases loopStep?_step moved with
      | ended reason isRunning => rfl
      | turned turns goesOn => rfl
      | asked goesOn asking => exact look_receipts consumer system.now system.broker
      | put holds hasReceiver hasRoom goesOn => rfl
  | closeStepped moved =>
      apply keeps_same
      unfold closeStep? at moved
      split at moved
      · cases moved
        rfl
      · cases moved
        rfl
      · cases moved
  | inboxClosed canReceive | inboxDropped | dropped | revised scripted
  | callsTaken scripted => exact keeps_same rfl

end Consumer

namespace System

variable {system : System} {n k : Nat} {consumer : Consumer} {receipt : Receipt} {token : Token}

theorem setConsumer_same (there : system.consumers[n]? = some consumer) :
    system.setConsumer n consumer = system := by
  obtain ⟨inside, rfl⟩ := List.getElem?_eq_some_iff.mp there
  simp [setConsumer]

theorem act_ack_again (there : system.consumers[n]? = some consumer)
    (found : consumer.receipts[k]? = some receipt) (isAcked : receipt.isAcked = true) :
    system.act (.ack n k) = (.outcome (.ok ()), system, []) := by
  have acking := Consumer.ack?_again found isAcked system.broker
  simp only [act, ack, there, acking, setConsumer_same there]

theorem act_ack_first {group : String} (there : system.consumers[n]? = some consumer)
    (found : consumer.receipts[k]? = some receipt) (unacked : receipt.isAcked = false)
    (carried : receipt.message.token = some token)
    (inGroup : consumer.source.group? = some group) :
    system.act (.ack n k) =
      (.outcome (.ok ()),
        { system.setConsumer n (consumer.marked k receipt) with
          broker := system.broker.commit group token }, []) := by
  have acking := Consumer.ack?_first found unacked carried inGroup system.broker
  simp only [act, ack, there, acking]

theorem act_ack_of_no_group (there : system.consumers[n]? = some consumer)
    (found : consumer.receipts[k]? = some receipt) (unacked : receipt.isAcked = false)
    (carried : receipt.message.token = some token) (isMemory : consumer.source.isMemory = true)
    (ungrouped : consumer.source.group? = none) :
    system.act (.ack n k) = (.outcome (.error (.commit .noGroup)), system, []) := by
  have acking := Consumer.ack?_of_no_group found unacked carried isMemory ungrouped system.broker
  simp only [act, ack, there, acking, setConsumer_same there]

/-! ## What was acknowledged along a run -/

/-- The message that is acknowledged by an action which is answered, as the numbers of its
consumer and its receipt. -/
def acknowledges? (system : System) (action : Action) : Option (Nat × Nat) :=
  match action, (system.act action).1 with
  | .ack n k, .outcome _ => some (n, k)
  | _, _ => none

/-- The messages that are acknowledged along a run, as often as it is done, the oldest first. -/
def acknowledged (system : System) : List Action → List (Nat × Nat)
  | [] => []
  | action :: rest =>
      (system.acknowledges? action).toList ++ (system.next action).acknowledged rest

theorem acknowledged_append (system : System) (first second : List Action) :
    system.acknowledged (first ++ second) =
      system.acknowledged first ++ (system.after first).acknowledged second := by
  induction first generalizing system with
  | nil => rfl
  | cons action rest inductionHypothesis =>
      simp only [List.cons_append, acknowledged, after_cons, inductionHypothesis, List.append_assoc]

theorem acknowledges?_eq_some {action : Action}
    (acked : system.acknowledges? action = some (n, k)) :
    action = .ack n k ∧ ∃ consumer receipt, system.consumers[n]? = some consumer ∧
      consumer.receipts[k]? = some receipt := by
  unfold acknowledges? at acked
  split at acked
  · rename_i m j result answered
    cases acked
    refine ⟨rfl, ?_⟩
    simp only [act, ack] at answered
    split at answered
    · cases answered
    · rename_i consumer there
      split at answered
      · cases answered
      · rename_i acking
        obtain ⟨receipt, found, _⟩ := Option.map_eq_some_iff.mp acking
        exact ⟨consumer, receipt, there, found⟩
  · cases acked

/-- A message that a consumer of the broker has received carries the position of its record. -/
theorem token_of_received (readers : system.ReadersFollow)
    (there : system.consumers[n]? = some consumer) (isMemory : consumer.source.isMemory = true)
    (found : consumer.receipts[k]? = some receipt) :
    ∃ offset : Nat, receipt.message.token = some ⟨consumer.topic.name, 0, offset⟩ := by
  obtain ⟨client, memory⟩ := Source.isMemory_iff.mp isMemory
  obtain ⟨settings, polled, follows⟩ := readers there memory
  obtain ⟨offset, stored, _, made⟩ :=
    follows.mem_received (List.mem_map_of_mem (List.mem_of_getElem? found))
  exact ⟨offset, consumer.topic.message?_token made⟩

theorem receipts_next (there : system.consumers[n]? = some consumer) (action : Action) :
    ∃ after, (system.next action).consumers[n]? = some after ∧
      Consumer.Keeps n consumer.receipts action after.receipts := by
  rcases (system.act_effect action).consumer_frame there with
    ⟨moved, found, changed⟩ | ⟨found, _, _⟩
  · exact ⟨moved, found, changed.keeps⟩
  · exact ⟨consumer, found, Consumer.keeps_same rfl⟩

/-! ## Receipts are marked for what was acknowledged -/

/-- On a bus where the given messages were acknowledged, each of them was received, and a
receipt of a consumer of the broker is marked just if its message is one of them and there is a
group to commit for. -/
structure Marks (system : System) (made : List (Nat × Nat)) : Prop where
  received : ∀ ⦃n k : Nat⦄, (n, k) ∈ made →
    ∃ consumer, system.consumers[n]? = some consumer ∧ k < consumer.receipts.length
  marked : ∀ ⦃n k : Nat⦄ ⦃consumer : Consumer⦄ ⦃receipt : Receipt⦄,
    system.consumers[n]? = some consumer → consumer.source.isMemory = true →
      consumer.receipts[k]? = some receipt →
        (receipt.isAcked = true ↔ (n, k) ∈ made ∧ consumer.source.group?.isSome = true)

private theorem marks_ofRegistry (registry : Registry) : (ofRegistry registry).Marks [] where
  received _ _ member := by cases member
  marked _ _ _ _ there := by cases there

private theorem Marks.received_next {made : List (Nat × Nat)} (marks : system.Marks made)
    (action : Action) {message : Nat × Nat}
    (member : message ∈ made ++ (system.acknowledges? action).toList) :
    ∃ consumer, (system.next action).consumers[message.1]? = some consumer ∧
      message.2 < consumer.receipts.length := by
  obtain ⟨n, k⟩ := message
  obtain ⟨before, there, inside⟩ :
      ∃ consumer, system.consumers[n]? = some consumer ∧ k < consumer.receipts.length := by
    rcases List.mem_append.mp member with earlier | now
    · exact marks.received earlier
    · obtain ⟨_, consumer, receipt, there, found⟩ :=
        acknowledges?_eq_some (Option.mem_toList.mp now)
      exact ⟨consumer, there, (List.getElem?_eq_some_iff.mp found).1⟩
  obtain ⟨after, thereAfter, keeps⟩ := receipts_next there action
  refine ⟨after, thereAfter, ?_⟩
  generalize after.receipts = receipts at keeps
  cases keeps with
  | more fresh unacked =>
      rw [List.length_append]
      exact Nat.lt_add_right _ inside
  | acked found =>
      rw [List.length_set]
      exact inside

/-- An acknowledgement marks the receipt if there is a group to commit for and it was not marked
before, and it leaves the consumer as it is otherwise. -/
private theorem ack_cases (readers : system.ReadersFollow)
    (there : system.consumers[n]? = some consumer) (isMemory : consumer.source.isMemory = true)
    (j : Nat) {after : Consumer}
    (thereAfter : (system.next (.ack n j)).consumers[n]? = some after) :
    (after = consumer ∧ ∀ receipt, consumer.receipts[j]? = some receipt →
        consumer.source.group?.isSome = true → receipt.isAcked = true) ∨
      ∃ receipt, consumer.receipts[j]? = some receipt ∧ consumer.source.group?.isSome = true ∧
        after = consumer.marked j receipt := by
  have unchanged (same : system.next (.ack n j) = system) : after = consumer := by
    rw [same] at thereAfter
    exact Option.some.inj (thereAfter.symm.trans there)
  cases receiving : consumer.receipts[j]? with
  | none =>
      refine .inl ⟨unchanged ?_, by simp⟩
      simp [next, act, ack, there, Consumer.ack?, receiving, absent]
  | some received =>
      obtain ⟨offset, carried⟩ := token_of_received readers there isMemory receiving
      cases isAcked : received.isAcked with
      | true =>
          refine .inl ⟨unchanged ?_, by simpa using fun _ => isAcked⟩
          rw [next, act_ack_again there receiving isAcked]
      | false =>
          cases grouped : consumer.source.group? with
          | none =>
              refine .inl ⟨unchanged ?_, by simp⟩
              rw [next, act_ack_of_no_group there receiving isAcked carried isMemory grouped]
          | some group =>
              rw [next, act_ack_first there receiving isAcked carried grouped] at thereAfter
              obtain ⟨inside, _⟩ := List.getElem?_eq_some_iff.mp there
              refine .inr ⟨received, rfl, rfl, ?_⟩
              exact Option.some.inj (thereAfter.symm.trans (List.getElem?_set_self inside))

/-- An acknowledgement leaves the receipts marked for what was acknowledged by then. -/
private theorem Marks.marked_ack {made : List (Nat × Nat)} (marks : system.Marks made)
    (readers : system.ReadersFollow) (there : system.consumers[n]? = some consumer)
    (isMemory : consumer.source.isMemory = true) (j : Nat) {after : Consumer}
    (thereAfter : (system.next (.ack n j)).consumers[n]? = some after)
    (found : after.receipts[k]? = some receipt) :
    receipt.isAcked = true ↔
      (n, k) ∈ made ++ (system.acknowledges? (.ack n j)).toList ∧
        consumer.source.group?.isSome = true := by
  rcases ack_cases readers there isMemory j thereAfter with
    ⟨rfl, known⟩ | ⟨received, receiving, grouped, rfl⟩
  · have marked := marks.marked there isMemory found
    constructor
    · intro isAcked
      exact ⟨List.mem_append_left _ (marked.mp isAcked).1, (marked.mp isAcked).2⟩
    · rintro ⟨member, grouped⟩
      rcases List.mem_append.mp member with earlier | now
      · exact marked.mpr ⟨earlier, grouped⟩
      · cases (acknowledges?_eq_some (Option.mem_toList.mp now)).1
        exact known receipt found grouped
  · obtain ⟨place, _⟩ := List.getElem?_eq_some_iff.mp receiving
    have answered : system.acknowledges? (.ack n j) = some (n, j) := by
      simp [acknowledges?, act, ack, there, Consumer.ack?, receiving]
    rw [answered]
    by_cases own : k = j
    · subst own
      cases (List.getElem?_set_self place).symm.trans found
      simp [grouped]
    · have other : consumer.receipts[k]? = some receipt :=
        (List.getElem?_set_ne (Ne.symm own)).symm.trans found
      simpa [own] using marks.marked there isMemory other

theorem Marks.next {made : List (Nat × Nat)} (marks : system.Marks made)
    (readers : system.ReadersFollow) (action : Action) :
    (system.next action).Marks (made ++ (system.acknowledges? action).toList) where
  received _ _ member := marks.received_next action member
  marked n k after receipt thereAfter isMemory found := by
    cases before : system.consumers[n]? with
    | none =>
        obtain ⟨kind, inlet, scope, rfl, _, making⟩ :=
          (system.act_effect action).consumer_origin before thereAfter
        obtain ⟨client, memory⟩ := Source.isMemory_iff.mp isMemory
        obtain ⟨settings, follows⟩ := follows_ofInlet making memory system.broker
        cases follows.progress with
        | unasked untouched =>
            have nothing : after.receipts = [] := List.map_eq_nil_iff.mp untouched.received_eq_nil
            rw [nothing] at found
            cases found
    | some consumer =>
        obtain ⟨kept, sameAfter, sameGroup⟩ := consumer_group_next readers before action
        obtain rfl : kept = after := Option.some.inj (sameAfter.symm.trans thereAfter)
        obtain ⟨again, foundAgain, akin⟩ := consumer_next before action
        obtain rfl : again = kept := Option.some.inj (foundAgain.symm.trans thereAfter)
        have wasMemory : consumer.source.isMemory = true := akin.2.symm.trans isMemory
        rw [sameGroup]
        by_cases acks : ∃ j, action = .ack n j
        · obtain ⟨j, rfl⟩ := acks
          exact marks.marked_ack readers before wasMemory j thereAfter found
        · have others : (n, k) ∈ made ++ (system.acknowledges? action).toList ↔ (n, k) ∈ made := by
            refine ⟨fun member => ?_, List.mem_append_left _⟩
            rcases List.mem_append.mp member with earlier | now
            · exact earlier
            · exact absurd ⟨k, (acknowledges?_eq_some (Option.mem_toList.mp now)).1⟩ acks
          rw [others]
          obtain ⟨moved, thereToo, keeps⟩ := receipts_next before action
          obtain rfl : moved = again := Option.some.inj (thereToo.symm.trans thereAfter)
          generalize moved.receipts = receipts at keeps found
          cases keeps with
          | acked receiving => exact absurd ⟨_, rfl⟩ acks
          | more fresh unacked =>
              by_cases old : k < consumer.receipts.length
              · rw [List.getElem?_append_left old] at found
                exact marks.marked before wasMemory found
              · have new : receipt ∈ fresh := by
                  rw [List.getElem?_append_right (Nat.le_of_not_lt old)] at found
                  exact List.mem_of_getElem? found
                constructor
                · intro marked
                  rw [unacked receipt new] at marked
                  cases marked
                · rintro ⟨member, _⟩
                  obtain ⟨same, here, inside⟩ := marks.received member
                  rw [before] at here
                  cases here
                  exact absurd inside old

theorem marks_after (registry : Registry) (actions : List Action) :
    ((ofRegistry registry).after actions).Marks ((ofRegistry registry).acknowledged actions) := by
  induction actions using List.reverseRecOn with
  | nil => exact marks_ofRegistry registry
  | append_singleton earlier action inductionHypothesis =>
      have readers := (readersFollow_ofRegistry registry).after earlier
      rw [after_append, acknowledged_append]
      simpa [acknowledged] using inductionHypothesis.next readers action

end System

end TopicBus
