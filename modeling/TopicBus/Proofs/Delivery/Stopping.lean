import TopicBus.Proofs.Delivery.Commits
import TopicBus.Proofs.Delivery.Winding
import TopicBus.Proofs.Groups.Membership

/-!
# How a consumer stops

The stream of a consumer stops when the consumer is closed or let go, when its scope is
cancelled, and when a poll fails. From then on nothing is fetched. What waits in the inbox can
still be received, in order, and it can be acknowledged; after it comes the end.
-/

namespace TopicBus

/-! ## What is still received -/

/-- What a move makes known about the stream of a consumer: a message, or the end. -/
def Move.yield? (n : Nat) (move : Move) : Option Reply :=
  match move.action, move.reply with
  | .receive m, .received receipt message =>
      if m = n then some (.received receipt message) else none
  | .receive m, .ended => if m = n then some .ended else none
  | _, _ => none

namespace System

variable {system : System} {n : Nat} {consumer : Consumer} {action : Action}

/-- What a consumer yields along a run: messages, with the numbers of their receipts, and the
end. -/
def yielded (system : System) (n : Nat) (actions : List Action) : List Reply :=
  (system.run actions).filterMap (Move.yield? n)

end System

/-- The replies to receiving what waits in the inbox of a consumer. -/
def Consumer.queued (consumer : Consumer) : List Reply :=
  consumer.inbox.queue.mapIdx fun place message =>
    .received (consumer.receipts.length + place) message

/-- What is taken from the inbox is yielded before everything else that waits in it. -/
private theorem Consumer.queued_eq_cons {consumer : Consumer} {message : Message}
    {others : List Message} (queue : consumer.inbox.queue = message :: others) :
    consumer.queued = .received consumer.receipts.length message ::
      Consumer.queued { consumer with
        inbox := { consumer.inbox with queue := others }
        receipts := consumer.receipts ++ [.ofMessage message] } := by
  simp only [Consumer.queued, queue, List.mapIdx_cons, Nat.add_zero, List.length_append,
    List.length_singleton]
  congr 2
  funext place value
  congr 1
  omega

namespace System

variable {system : System} {n : Nat} {consumer : Consumer} {action : Action}

/-- What is received from a consumer is the head of the queue. -/
theorem act_receive (there : system.consumers[n]? = some consumer) {message : Message}
    {rest : List Message} (canReceive : consumer.canReceive = true)
    (queued : consumer.inbox.queue = message :: rest) :
    system.act (.receive n) =
      (.received consumer.receipts.length message,
        system.setConsumer n { consumer with
          inbox := { consumer.inbox with queue := rest }
          receipts := consumer.receipts ++ [.ofMessage message] }, []) := by
  simp [act, receive, there, canReceive, Consumer.receive?, Channel.pop?, queued]

/-- Nothing is received from an empty inbox. -/
theorem act_receive_empty (there : system.consumers[n]? = some consumer)
    (canReceive : consumer.canReceive = true) (empty : consumer.inbox.queue = []) :
    system.act (.receive n) =
      (if consumer.inbox.isLive then .empty else .ended, system, []) := by
  simp [act, receive, there, canReceive, Consumer.receive?, Channel.pop?, empty]

theorem act_receive_dropped (there : system.consumers[n]? = some consumer)
    (dropped : consumer.canReceive = false) :
    system.act (.receive n) = (.absent, system, []) := by
  simp [act, receive, there, dropped, absent]

private theorem yielded_cons (system : System) (n : Nat) (action : Action) (rest : List Action) :
    system.yielded n (action :: rest) =
      (Move.yield? n ⟨action, (system.act action).1, (system.act action).2.2,
        system.next action⟩).toList ++ (system.next action).yielded n rest := by
  have moves : system.run (action :: rest) =
      ⟨action, (system.act action).1, (system.act action).2.2, system.next action⟩ ::
        (system.next action).run rest := rfl
  simp only [yielded, moves, List.filterMap_cons]
  cases Move.yield? n ⟨action, (system.act action).1, (system.act action).2.2,
    system.next action⟩ <;> rfl

private theorem yielded_of_silent (silent : action ≠ .receive n) (rest : List Action) :
    system.yielded n (action :: rest) = (system.next action).yielded n rest := by
  have nothing (move : Move) (other : move.action ≠ .receive n) : move.yield? n = none := by
    unfold Move.yield?
    split
    · rename_i m _ _ receiving _
      have different : m ≠ n := fun same => other (same ▸ receiving)
      rw [if_neg different]
    · rename_i m receiving _
      have different : m ≠ n := fun same => other (same ▸ receiving)
      rw [if_neg different]
    · rfl
  rw [yielded_cons, nothing]
  · rfl
  · exact silent

/-- An inbox that the application has dropped yields nothing, not even the end. -/
private theorem IsStopped.yielded_eq_nil (stopped : system.IsStopped n consumer)
    (dropped : consumer.canReceive = false) (actions : List Action) :
    system.yielded n actions = [] := by
  induction actions generalizing system consumer with
  | nil => rfl
  | cons action rest inductionHypothesis =>
      by_cases receiving : action = .receive n
      · subst receiving
        have absent := act_receive_dropped stopped.there dropped
        rw [yielded_cons, System.next, absent]
        exact inductionHypothesis stopped dropped
      · obtain ⟨after, stoppedNext, winds, _, _⟩ := stopped.next action
        rw [yielded_of_silent receiving]
        apply inductionHypothesis stoppedNext
        cases winds with
        | received queued => exact absurd rfl receiving
        | inboxClosed canReceive =>
            rw [dropped] at canReceive
            cases canReceive
        | inboxDropped => rfl
        | ended => exact dropped
        | kept isOver inbox takesRest loop receipts stays =>
            rw [Consumer.canReceive, inbox, takesRest]
            exact dropped

private theorem prefix_replicate_succ {α : Type} {taken whole : List α} {last : α} {count : Nat}
    (begins : taken <+: whole ++ List.replicate count last) :
    taken <+: whole ++ List.replicate (count + 1) last := by
  rw [List.replicate_succ', ← List.append_assoc]
  exact begins.trans (List.prefix_append _ _)

/-- What is yielded was in the inbox, from its head on, and after that there is only the end. -/
theorem IsStopped.yielded_isPrefix (stopped : system.IsStopped n consumer) (actions : List Action) :
    system.yielded n actions <+:
      consumer.queued ++ List.replicate (system.yielded n actions).length .ended := by
  induction actions generalizing system consumer with
  | nil => exact List.nil_prefix
  | cons action rest inductionHypothesis =>
      by_cases receiving : action = .receive n
      · subst receiving
        cases canReceive : consumer.canReceive with
        | false =>
            rw [stopped.yielded_eq_nil canReceive]
            exact List.nil_prefix
        | true =>
            cases queue : consumer.inbox.queue with
            | nil =>
                have nothing := act_receive_empty stopped.there canReceive queue
                have followed := inductionHypothesis stopped
                rw [yielded_cons, System.next, nothing]
                cases consumer.inbox.isLive with
                | true => simpa [Move.yield?] using followed
                | false =>
                    simp only [Consumer.queued, queue, List.mapIdx_nil,
                      List.nil_append] at followed ⊢
                    simpa [Move.yield?, List.replicate_succ] using followed
            | cons message others =>
                have taken := act_receive stopped.there canReceive queue
                obtain ⟨after, stoppedNext, _, _, _⟩ := stopped.next (.receive n)
                have followed := inductionHypothesis stoppedNext
                have found := stoppedNext.there
                obtain ⟨inside, _⟩ := List.getElem?_eq_some_iff.mp stopped.there
                rw [System.next, taken, setConsumer, List.getElem?_set_self inside] at found
                obtain rfl := Option.some.inj found
                rw [yielded_cons, Consumer.queued_eq_cons queue, taken]
                simp only [Move.yield?, if_true, Option.toList_some, List.cons_append,
                  List.nil_append, List.length_cons]
                rw [List.prefix_cons_inj]
                exact prefix_replicate_succ followed
      · obtain ⟨after, stoppedNext, winds, _, _⟩ := stopped.next action
        have followed := inductionHypothesis stoppedNext
        rw [yielded_of_silent receiving]
        cases winds with
        | received queued => exact absurd rfl receiving
        | inboxDropped =>
            rw [stoppedNext.yielded_eq_nil rfl]
            exact List.nil_prefix
        | inboxClosed canReceive | ended => exact followed
        | kept isOver inbox takesRest loop receipts stays =>
            simp only [Consumer.queued, inbox, receipts] at followed
            exact followed

/-- As soon as the loop is over, nobody waits for a message in vain. -/
theorem IsStopped.not_empty (stopped : system.IsStopped n consumer) (shut : system.InboxesShut)
    (isOver : consumer.loop.isRunning = false) (actions : List Action) {move : Move}
    (member : move ∈ system.run actions) (receiving : move.action = .receive n) :
    move.reply ≠ .empty := by
  induction actions generalizing system consumer with
  | nil => cases member
  | cons action rest inductionHypothesis =>
      obtain ⟨after, stoppedNext, _, _, ends⟩ := stopped.next action
      rcases List.mem_cons.mp member with rfl | later
      · have asked : action = .receive n := receiving
        subst asked
        have noSender := shut stopped.there isOver
        change (system.act (.receive n)).1 ≠ .empty
        cases canReceive : consumer.canReceive with
        | false => simp [act_receive_dropped stopped.there canReceive]
        | true =>
            cases queue : consumer.inbox.queue with
            | nil =>
                simp [act_receive_empty stopped.there canReceive queue, Channel.isLive, noSender]
            | cons message others => simp [act_receive stopped.there canReceive queue]
      · exact inductionHypothesis stoppedNext (shut.next action) (ends (.inl isOver)) later

/-! ## The ways to stop -/

/-- An action with which the stream of an opened consumer of the broker stops, whatever its loop
is about to do. -/
inductive Stops (system : System) (n : Nat) (consumer : Consumer) (client : Client) : Action → Prop
  | closed (isHeld : consumer.isHeld = true) (first : consumer.closing = .notYet) :
      Stops system n consumer client (.closeConsumer n)
  | dropped : Stops system n consumer client (.dropConsumer n)
  | cancelled : Stops system n consumer client (.cancel consumer.scope)
  /-- The broker was told to fail every poll, and the loop looks. -/
  | failed {reason : String} (failure : system.broker.failure? = some reason)
      (asking : consumer.isAsking = true)
      (goesOn : system.isConsumerStopped consumer = false) :
      Stops system n consumer client (.step (.pollLoop n))
  /-- The first look finds no committed offset, and there is no other place to start from. -/
  | unplaced (policy : client.policy = .none) (isFirst : client.position = none)
      (uncommitted : client.committed? system.broker consumer.topic.name = none)
      (asking : consumer.isAsking = true)
      (goesOn : system.isConsumerStopped consumer = false) :
      Stops system n consumer client (.step (.pollLoop n))

variable {client : Client}

/-- A look of the loop, as an action. -/
private theorem act_look (there : system.consumers[n]? = some consumer)
    (asking : consumer.isAsking = true)
    (goesOn : system.isConsumerStopped consumer = false) :
    system.act (.step (.pollLoop n)) =
      (.done, system.setConsumer n (consumer.look system.now system.broker).1,
        eventsOf (.consumer n) (consumer.look system.now system.broker).2) := by
  have moved : consumer.loopStep? system.now (system.isConsumerStopped consumer) system.broker =
      some (consumer.look system.now system.broker) := by
    rw [goesOn]
    exact Consumer.loopStep?_asking asking
  simp [act, step, step?, loopStep?, there, moved]

/-- A failing poll ends the loop and leaves the inbox as it is. -/
private theorem isStopped_of_failed (memory : consumer.source = .memory client)
    (subscribed : client.topic = some consumer.topic.name)
    (there : system.consumers[n]? = some consumer)
    (fails : system.broker.failure? = none →
      ∃ fault, client.nextPosition system.broker consumer.topic.name = .error fault)
    (asking : consumer.isAsking = true)
    (goesOn : system.isConsumerStopped consumer = false) :
    (system.next (.step (.pollLoop n))).IsStopped n (consumer.endLoop .ended) ∧
      fetchedOf (happeningsOf (.consumer n) (system.act (.step (.pollLoop n))).2.2) = [] := by
  have polling := Consumer.look_memory system.now system.broker memory subscribed
  have moved := act_look there asking goesOn
  obtain ⟨inside, _⟩ := List.getElem?_eq_some_iff.mp there
  have ended : (consumer.look system.now system.broker).1 = consumer.endLoop .ended ∧
      fetchedOf (consumer.look system.now system.broker).2 = [] := by
    generalize (consumer.look system.now system.broker).1 = after at polling
    generalize (consumer.look system.now system.broker).2 = happenings at polling
    cases polling with
    | broken failure => exact ⟨rfl, rfl⟩
    | unplaced works nowhere => exact ⟨rfl, rfl⟩
    | idle works next nothing =>
        obtain ⟨fault, nowhere⟩ := fails works
        rw [nowhere] at next
        cases next
    | fetched works next found =>
        obtain ⟨fault, nowhere⟩ := fails works
        rw [nowhere] at next
        cases next
  refine ⟨⟨?_, ?_, by simp [Consumer.endLoop], .inr rfl⟩, ?_⟩
  · rw [System.next, moved, ended.1]
    exact List.getElem?_set_self inside
  · exact Source.isMemory_iff.mpr ⟨client, memory⟩
  · rw [moved, happeningsOf_eventsOf]
    exact ended.2

/-- However the stream stops, the inbox still holds what it held. -/
theorem Stops.next {stop : Action} (stops : system.Stops n consumer client stop)
    (readers : system.ReadersFollow) (there : system.consumers[n]? = some consumer)
    (memory : consumer.source = .memory client) (isOpened : consumer.isOpened = true) :
    ∃ after, (system.next stop).IsStopped n after ∧ after.queued = consumer.queued ∧
      fetchedOf (happeningsOf (.consumer n) (system.act stop).2.2) = [] ∧
      (stop = .step (.pollLoop n) → after.loop.isRunning = false) ∧ stop ≠ .receive n := by
  have isMemory : consumer.source.isMemory = true := Source.isMemory_iff.mpr ⟨client, memory⟩
  obtain ⟨inside, _⟩ := List.getElem?_eq_some_iff.mp there
  have running : consumer.loop ≠ .unstarted := by
    intro unstarted
    simp [Consumer.isOpened, unstarted] at isOpened
  obtain ⟨settings, polled, follows⟩ := readers there memory
  have subscribed (asking : consumer.isAsking = true) :
      client.topic = some consumer.topic.name :=
        follows.subscribed (Consumer.loop_of_asking asking).1
  cases stops with
  | closed isHeld first =>
      have isStopped := Consumer.stopped_beginClose first system.now
      obtain ⟨clientAfter, closes⟩ := Consumer.closes_beginClose memory system.now
      obtain ⟨stopped, closing, _, begun⟩ := closes.unchanged
      have done : system.act (.closeConsumer n) =
          (.done, system.setConsumer n (consumer.beginClose system.now), []) := by
        simp only [act, closeConsumer, there, isHeld, if_true, first]
      refine ⟨consumer.beginClose system.now, ⟨?_, ?_, ?_, ?_⟩, ?_, ?_, by simp, by simp⟩
      · rw [System.next, done]
        exact List.getElem?_set_self inside
      · exact Source.isMemory_iff.mpr ⟨clientAfter, closes.memory⟩
      · rw [begun]
        exact running
      · simp [isConsumerStopped, isStopped]
      · rw [begun]
        rfl
      · rw [done]
        rfl
  | dropped =>
      have dropping : system.act (.dropConsumer n) =
          (.done, system.setConsumer n consumer.drop, []) := by
        simp [act, dropConsumer, there]
      refine ⟨consumer.drop, ⟨?_, isMemory, running, ?_⟩, rfl, ?_, by simp, by simp⟩
      · rw [System.next, dropping]
        exact List.getElem?_set_self inside
      · simp [isConsumerStopped, Consumer.drop]
      · rw [dropping]
        rfl
  | cancelled =>
      refine ⟨consumer, ⟨there, isMemory, running, .inl ?_⟩, rfl, rfl, by simp, by simp⟩
      simp [System.next, act, cancel, isConsumerStopped]
  | failed failure asking goesOn =>
      have fails : system.broker.failure? = none →
          ∃ fault, client.nextPosition system.broker consumer.topic.name = .error fault := by
        intro works
        rw [works] at failure
        cases failure
      obtain ⟨stopped, nothing⟩ :=
        isStopped_of_failed memory (subscribed asking) there fails asking goesOn
      exact ⟨_, stopped, rfl, nothing, fun _ => rfl, by simp⟩
  | unplaced policy isFirst uncommitted asking goesOn =>
      have nowhere : client.nextPosition system.broker consumer.topic.name =
          .error (.noCommittedOffset consumer.topic.name) := by
        simp [Client.nextPosition, isFirst, Client.startPosition, uncommitted, policy]
      obtain ⟨stopped, nothing⟩ :=
        isStopped_of_failed memory (subscribed asking) there (fun _ => ⟨_, nowhere⟩) asking goesOn
      exact ⟨_, stopped, rfl, nothing, fun _ => rfl, by simp⟩

/-! ## Acknowledging what was received -/

/-- The first acknowledgement of a message commits the position behind the record that it was
made from. -/
theorem ack_commits (readers : system.ReadersFollow) (there : system.consumers[n]? = some consumer)
    (memory : consumer.source.isMemory = true) {group : String}
    (inGroup : consumer.source.group? = some group) {k : Nat} {receipt : Receipt}
    (found : consumer.receipts[k]? = some receipt) (unacked : receipt.isAcked = false) :
    ∃ (offset : Nat) (stored : Stored),
      (system.broker.log consumer.topic.name)[offset]? = some stored ∧
      consumer.topic.message? offset stored = some receipt.message ∧
      (system.act (.ack n k)).1 = .outcome (.ok ()) ∧
      (system.next (.ack n k)).broker.committed? group consumer.topic.name =
        some ((offset : Int) + 1) := by
  obtain ⟨client, source⟩ := Source.isMemory_iff.mp memory
  obtain ⟨settings, polled, follows⟩ := readers there source
  have member : receipt.message ∈ consumer.received :=
    List.mem_map_of_mem (List.mem_of_getElem? found)
  obtain ⟨offset, stored, inLog, made⟩ := follows.mem_received member
  have carried := consumer.topic.message?_token made
  have commits : consumer.commits? k = some (group, ⟨consumer.topic.name, 0, offset⟩) := by
    simp [Consumer.commits?, found, carried, inGroup, unacked]
  obtain ⟨after, acking⟩ := Consumer.ack?_of_commits commits system.broker
  have done : system.act (.ack n k) = (.outcome (.ok ()),
      { system.setConsumer n after with
        broker := system.broker.commit group ⟨consumer.topic.name, 0, offset⟩ }, []) := by
    simp [act, ack, there, acking]
  refine ⟨offset, stored, inLog, made, by rw [done], ?_⟩
  rw [next, done, Broker.committed?_commit]
  exact if_pos ⟨rfl, rfl⟩

/-! ## The theorem -/

/-- Whenever the stream of an opened consumer of the broker stops, in whatever way, nothing is
fetched any more, by no later call either. Receiving yields what waited in the inbox when it
stopped, in order and with nothing left out, and then the end; nobody waits any more as soon as
the loop has had its turn. What is received so late commits its own position when it is
acknowledged. -/
theorem stopped_cleanly (registry : Registry) (earlier later : List Action) (stop : Action)
    (n : Nat)
    (consumer : Consumer) (client : Client)
    (there : ((ofRegistry registry).after earlier).consumers[n]? = some consumer)
    (memory : consumer.source = .memory client) (isOpened : consumer.isOpened = true)
    (stops : ((ofRegistry registry).after earlier).Stops n consumer client stop) :
    let system := (ofRegistry registry).after earlier
    let final := system.after (stop :: later)
    fetchedOf (happeningsOf (.consumer n) (system.events (stop :: later))) = [] ∧
      system.yielded n (stop :: later) <+:
        consumer.queued ++ List.replicate (system.yielded n (stop :: later)).length .ended ∧
      (∀ first rest, stop :: later = first ++ rest → .step (.pollLoop n) ∈ first →
        ∀ move ∈ (system.after first).run rest, move.action = .receive n → move.reply ≠ .empty) ∧
      ∀ group, consumer.source.group? = some group →
        ∃ last, final.consumers[n]? = some last ∧
          ∀ k receipt, last.receipts[k]? = some receipt → receipt.isAcked = false →
            ∃ (offset : Nat) (stored : Stored),
              (final.broker.log consumer.topic.name)[offset]? = some stored ∧
              consumer.topic.message? offset stored = some receipt.message ∧
              (final.act (.ack n k)).1 = .outcome (.ok ()) ∧
              (final.next (.ack n k)).broker.committed? group consumer.topic.name =
                some ((offset : Int) + 1) := by
  intro system final
  have readers : system.ReadersFollow := (readersFollow_ofRegistry registry).after earlier
  have shut : system.InboxesShut := (inboxesShut_ofRegistry registry).after earlier
  obtain ⟨after, stopped, queued, nothing, ends, silent⟩ :=
    stops.next readers there memory isOpened
  refine ⟨?_, ?_, ?_, ?_⟩
  · obtain ⟨_, _, nothingLater, _⟩ := stopped.after later
    rw [events_cons, happeningsOf_append, fetchedOf_append, nothing, nothingLater]
    rfl
  · rw [yielded_of_silent silent, ← queued]
    exact stopped.yielded_isPrefix later
  · intro first rest split turn move member receiving
    cases first with
    | nil => cases turn
    | cons head between =>
        obtain ⟨rfl, rfl⟩ := List.cons.inj split
        obtain ⟨last, stoppedLast, _, overLast⟩ := stopped.after between
        have shutLast := (shut.next stop).after between
        have isOver : last.loop.isRunning = false := by
          apply overLast
          rcases List.mem_cons.mp turn with now | afterwards
          · exact .inl (ends now.symm)
          · exact .inr afterwards
        exact stoppedLast.not_empty shutLast isOver rest member receiving
  · intro group inGroup
    obtain ⟨last, found, akin⟩ := consumer_after there (stop :: later)
    obtain ⟨again, foundAgain, sameGroup⟩ :=
      (keepsGroups_after readers (stop :: later)).consumer there
    obtain rfl : again = last := Option.some.inj (foundAgain.symm.trans found)
    refine ⟨again, found, fun k receipt received unacked => ?_⟩
    have isMemory : again.source.isMemory = true := by
      rw [akin.2]
      exact Source.isMemory_iff.mpr ⟨client, memory⟩
    rw [← akin.1]
    exact ack_commits (readers.after (stop :: later)) found isMemory (sameGroup.trans inGroup)
      received unacked

/-- A consumer of the group `g` has a message in its inbox, which is full, and its loop holds
another one. -/
def readUntilFull : List Action :=
  List.replicate 3 (.append "beat" none (Scan.letters "null")) ++
    [joining, .openConsumer 0] ++ List.replicate 5 (.step (.pollLoop 0))

/-- The scope is cancelled, and the application receives until the end. -/
def receivedToEnd : List Action :=
  [.receive 0, .receive 0, .openConsumer 0, .step (.pollLoop 0), .receive 0, .receive 0]

theorem stopped_cleanly_of_cancelled_while_full :
    let before := (ofRegistry ⟨[(.unit, "beat")], [("beat", .unit)]⟩).after readUntilFull
    let final := before.after (.cancel "scope" :: receivedToEnd)
    ∃ consumer, before.consumers[0]? = some consumer ∧ consumer.loop.held?.isSome = true ∧
      consumer.queued.length = 1 ∧
      fetchedOf (happeningsOf (.consumer 0)
        (before.events (.cancel "scope" :: receivedToEnd))) = [] ∧
      before.yielded 0 (.cancel "scope" :: receivedToEnd) <+:
        consumer.queued ++ [.ended, .ended, .ended] ∧
      (final.next (.ack 0 0)).broker.committed? "g" "beat" = some 1 := by
  intro before final
  have begun : before.consumers[0]?.map (fun consumer =>
      (consumer.isOpened, consumer.source.isMemory, consumer.scope, consumer.source.group?)) =
      some (true, true, "scope", some "g") := by
    decide +kernel
  have full : before.consumers[0]?.map (fun consumer =>
      (consumer.topic.name, consumer.loop.held?.isSome, consumer.queued.length)) =
      some ("beat", true, 1) := by
    decide +kernel
  have received : final.consumers[0]?.map (fun last => last.receipts.map fun receipt =>
      (receipt.isAcked, receipt.message.token.map Token.offset)) = some [(false, some 0)] := by
    decide +kernel
  have three : (before.yielded 0 (.cancel "scope" :: receivedToEnd)).length = 3 := by decide +kernel
  obtain ⟨consumer, there, facts⟩ := Option.map_eq_some_iff.mp begun
  rw [there] at full
  simp only [Option.map_some, Option.some.injEq, Prod.mk.injEq] at facts full
  obtain ⟨isOpened, isMemory, scope, inGroup⟩ := facts
  obtain ⟨name, holds, queued⟩ := full
  obtain ⟨client, memory⟩ := Source.isMemory_iff.mp isMemory
  have stops : before.Stops 0 consumer client (.cancel "scope") := by
    rw [← scope]
    exact .cancelled
  obtain ⟨nothing, yields, _, acks⟩ := stopped_cleanly ⟨[(.unit, "beat")], [("beat", .unit)]⟩
    readUntilFull receivedToEnd (.cancel "scope") 0 consumer client there memory isOpened stops
  obtain ⟨last, found, commits⟩ := acks "g" inGroup
  rw [show final.consumers[0]? = some last from found] at received
  obtain ⟨receipt, shape, facts⟩ := List.map_eq_singleton_iff.mp (Option.some.inj received)
  simp only [Prod.mk.injEq, Option.map_eq_some_iff] at facts
  obtain ⟨unacked, token, carried, first⟩ := facts
  obtain ⟨offset, stored, _, made, _, committed⟩ := commits 0 receipt (by rw [shape]; rfl) unacked
  have own := consumer.topic.message?_token made
  rw [carried] at own
  cases own
  obtain rfl : offset = 0 := Int.ofNat.inj first
  refine ⟨consumer, there, holds, queued, nothing, ?_, ?_⟩
  · change before.yielded 0 (.cancel "scope" :: receivedToEnd) <+: consumer.queued ++
      List.replicate (before.yielded 0 (.cancel "scope" :: receivedToEnd)).length .ended at yields
    rw [three] at yields
    exact yields
  · rw [← name]
    exact committed

end System

end TopicBus
