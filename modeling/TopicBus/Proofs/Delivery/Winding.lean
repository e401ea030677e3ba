import TopicBus.Proofs.Delivery.Accounting

/-!
# Consumers that have stopped

A consumer has stopped when it was told to, or when its loop is over. It remains so whatever is
done to it, and it fetches nothing any more. When the loop is over, nobody waits for its inbox
in vain.
-/

namespace TopicBus

namespace Consumer

variable {consumer after : Consumer} {broker brokerAfter : Broker} {happenings : List Happening}

/-! ## Inboxes without a sender -/

/-- Only a loop that goes on keeps the inbox open for more. -/
def IsShut (consumer : Consumer) : Prop :=
  consumer.loop.isRunning = false → consumer.inbox.hasSender = false

private theorem IsShut.endLoop (consumer : Consumer) (loop : PollLoop) :
    (consumer.endLoop loop).IsShut :=
  fun _ => rfl

private theorem isShut_of_isRunning (isRunning : consumer.loop.isRunning = true) :
    consumer.IsShut := by
  intro isOver
  rw [isRunning] at isOver
  cases isOver

private theorem isShut_commit {token : Token} {result : Except Fault Unit} (shut : consumer.IsShut)
    (done : consumer.commit broker token = (result, after, brokerAfter)) : after.IsShut := by
  cases done
  exact shut

private theorem isShut_ack? {receipt : Nat} {result : Except Fault Unit} (shut : consumer.IsShut)
    (done : consumer.ack? broker receipt = some (result, after, brokerAfter)) : after.IsShut := by
  cases ack?_acking done with
  | again found isAcked => exact shut
  | unmade found unacked missing => exact shut
  | failed found unacked carried committing => exact isShut_commit shut committing
  | marked found unacked carried committing =>
      have kept := isShut_commit shut committing
      exact kept

private theorem isShut_handle (consumer : Consumer) (record : Record) :
    (consumer.handle record).1.IsShut := by
  apply isShut_of_isRunning
  unfold handle
  split
  · rfl
  · split <;> rfl

private theorem isShut_look (consumer : Consumer) (now : Nat) (broker : Broker) :
    (consumer.look now broker).1.IsShut := by
  unfold look
  cases consumer.source.poll broker with
  | mk polled source =>
      cases polled with
      | record record => exact isShut_handle _ record
      | nothing => exact isShut_of_isRunning rfl
      | idle => exact isShut_of_isRunning (PollLoop.isRunning_afterNothing _ _)
      | failed fault => exact IsShut.endLoop _ _
      | crashed => exact IsShut.endLoop _ _

/-- Whatever is done to a consumer, its inbox is shut as soon as its loop is over. -/
theorem Changes.isShut {system : System} {n : Nat} {action : Action} {reply : Reply}
    (changed : consumer.Changes system n action reply happenings after brokerAfter)
    (shut : consumer.IsShut) : after.IsShut := by
  cases changed with
  | opened opens =>
      cases opens with
      | again isOpened | refused unstarted subscribing => exact shut
      | crashed unstarted subscribing tooLarge =>
          intro _
          apply shut
          rw [unstarted]
          rfl
      | started unstarted subscribing fits => exact isShut_of_isRunning rfl
  | received canReceive taken =>
      obtain ⟨⟨head, inbox⟩, popped, same⟩ := Option.map_eq_some_iff.mp taken
      cases same
      obtain ⟨rest, _, rfl⟩ := Channel.pop?_eq_some_iff.mp popped
      exact shut
  | closeBegun isHeld first =>
      unfold beginClose
      simp only [first]
      split
      · exact shut
      · exact shut
  | committed done => exact isShut_commit shut done
  | acked done => exact isShut_ack? shut done
  | looped moved =>
      cases loopStep?_step moved with
      | ended reason isRunning => exact IsShut.endLoop _ _
      | turned turns goesOn => exact isShut_of_isRunning turns.leadsTo.1
      | asked goesOn asking => exact isShut_look consumer system.now system.broker
      | put holds hasReceiver hasRoom goesOn => exact isShut_of_isRunning rfl
  | closeStepped moved =>
      unfold closeStep? at moved
      split at moved
      · cases moved
        exact shut
      · cases moved
        exact shut
      · cases moved
  | inboxClosed canReceive | inboxDropped => exact shut
  | dropped => exact shut
  | revised scripted => exact shut
  | callsTaken scripted => exact shut

end Consumer

namespace System

variable {system : System} {n : Nat} {consumer : Consumer}

/-- The inboxes of all loops that are over are shut. -/
def InboxesShut (system : System) : Prop :=
  ∀ ⦃n : Nat⦄ ⦃consumer : Consumer⦄, system.consumers[n]? = some consumer → consumer.IsShut

theorem inboxesShut_ofRegistry (registry : Registry) : (ofRegistry registry).InboxesShut := by
  intro n consumer there
  cases there

theorem InboxesShut.next (shut : system.InboxesShut) (action : Action) :
    (system.next action).InboxesShut := by
  intro n consumer there
  have effect := system.act_effect action
  cases before : system.consumers[n]? with
  | none =>
      obtain ⟨kind, inlet, scope, rfl, _, making⟩ := effect.consumer_origin before there
      unfold Consumer.ofInlet at making
      split at making
      · cases making
      · split at making
        · cases making
        · cases making
          exact fun _ => rfl
  | some old =>
      rcases effect.consumer_frame before with ⟨moved, found, changed⟩ | ⟨found, _, _⟩
      · obtain rfl : moved = consumer := Option.some.inj (found.symm.trans there)
        exact changed.isShut (shut before)
      · obtain rfl : old = consumer := Option.some.inj (found.symm.trans there)
        exact shut before

theorem InboxesShut.after (shut : system.InboxesShut) (actions : List Action) :
    (system.after actions).InboxesShut :=
  after_of_next InboxesShut (fun _ action shut => shut.next action) shut actions

/-! ## Consumers that were stopped -/

/-- A consumer that was opened, with a loop that is over or ends with its next step. -/
structure HasStopped (system : System) (consumer : Consumer) : Prop where
  isOpened : consumer.loop ≠ .unstarted
  reason : system.isConsumerStopped consumer = true ∨ consumer.loop.isRunning = false

end System

/-- What can be done to a consumer of the broker that has stopped. -/
inductive Consumer.Winds (system : System) (n : Nat) (consumer : Consumer) :
    Action → Consumer → Prop
  | received {message : Message} {rest : List Message}
      (queued : consumer.inbox.queue = message :: rest) :
      Winds system n consumer (.receive n)
        { consumer with
          inbox := { consumer.inbox with queue := rest }
          receipts := consumer.receipts ++ [.ofMessage message] }
  | inboxClosed (canReceive : consumer.canReceive = true) :
      Winds system n consumer (.closeInbox n) consumer.closeInbox
  | inboxDropped : Winds system n consumer (.dropInbox n) consumer.dropInbox
  | ended : Winds system n consumer (.step (.pollLoop n)) (consumer.endLoop .ended)
  | kept {action : Action} {after : Consumer}
      (isOver : action = .step (.pollLoop n) → consumer.loop.isRunning = false)
      (inbox : after.inbox = consumer.inbox) (takesRest : after.takesRest = consumer.takesRest)
      (loop : after.loop = consumer.loop)
      (receipts : after.receipts.length = consumer.receipts.length)
      (stays : system.isConsumerStopped consumer = true → system.isConsumerStopped after = true) :
      Winds system n consumer action after

namespace Consumer

variable {system : System} {n : Nat} {action : Action} {reply : Reply}
  {consumer after : Consumer} {client : Client} {broker : Broker} {happenings : List Happening}

private theorem Closes.winds {clientAfter : Client}
    (closes : consumer.Closes client after clientAfter) (silent : action ≠ .step (.pollLoop n)) :
    consumer.Winds system n action after := by
  obtain ⟨stopped, closing, stops, rfl⟩ := closes.unchanged
  refine .kept (fun turn => absurd turn silent) rfl rfl rfl rfl ?_
  simp only [System.isConsumerStopped, Bool.or_eq_true]
  exact Or.imp_left stops

/-- A consumer that has stopped asks for nothing and puts nothing into its inbox. -/
private theorem LoopStep.of_stopped (stopped : system.HasStopped consumer)
    (moved : consumer.LoopStep system.now (system.isConsumerStopped consumer) system.broker after
      happenings) : after = consumer.endLoop .ended ∧ happenings = [] := by
  have goesOn (running : consumer.loop.isRunning = true)
      (unstopped : system.isConsumerStopped consumer = false) : False := by
    rcases stopped.reason with told | isOver
    · rw [unstopped] at told
      cases told
    · rw [running] at isOver
      cases isOver
  cases moved with
  | ended reason isRunning => exact ⟨rfl, rfl⟩
  | turned turns unstopped => exact (goesOn turns.comesFrom.1 unstopped).elim
  | asked unstopped asking => exact (goesOn (loop_of_asking asking).1 unstopped).elim
  | put holds hasReceiver hasRoom unstopped =>
      exact (goesOn (by simp [holds, PollLoop.isRunning]) unstopped).elim

theorem Changes.winds
    (changed : consumer.Changes system n action reply happenings after broker)
    (memory : consumer.source = .memory client) (stopped : system.HasStopped consumer) :
    consumer.Winds system n action after ∧ happenings = [] := by
  cases changed with
  | opened opens =>
      have opened : consumer.isOpened = true := by
        by_contra unopened
        exact stopped.isOpened (unstarted_of_not_isOpened unopened)
      rw [opens.eq_of_isOpened opened]
      exact ⟨.kept (by simp) rfl rfl rfl rfl id, rfl⟩
  | received canReceive taken =>
      obtain ⟨⟨head, inbox⟩, popped, same⟩ := Option.map_eq_some_iff.mp taken
      cases same
      obtain ⟨rest, queued, rfl⟩ := Channel.pop?_eq_some_iff.mp popped
      exact ⟨.received queued, rfl⟩
  | inboxClosed canReceive => exact ⟨.inboxClosed canReceive, rfl⟩
  | inboxDropped => exact ⟨.inboxDropped, rfl⟩
  | closeBegun isHeld first =>
      obtain ⟨clientAfter, closes⟩ := closes_beginClose memory system.now
      exact ⟨closes.winds (by simp), rfl⟩
  | dropped =>
      refine ⟨.kept (by simp) rfl rfl rfl rfl ?_, rfl⟩
      intro _
      simp [System.isConsumerStopped, drop]
  | committed done =>
      obtain rfl := commit_memory memory done
      exact ⟨.kept (by simp) rfl rfl rfl rfl id, rfl⟩
  | acked done =>
      obtain ⟨receipts, rfl, unchanged⟩ := ack?_memory memory done
      have sameLength : receipts.length = consumer.receipts.length := by
        have lengths := congrArg List.length unchanged
        simpa [Consumer.received] using lengths
      exact ⟨.kept (by simp) rfl rfl rfl sameLength id, rfl⟩
  | revised scripted =>
      rw [memory] at scripted
      cases scripted
  | callsTaken scripted =>
      rw [memory] at scripted
      cases scripted
  | looped moved =>
      obtain ⟨rfl, rfl⟩ := (loopStep?_step moved).of_stopped stopped
      exact ⟨.ended, rfl⟩
  | closeStepped moved =>
      obtain ⟨clientAfter, closes⟩ := closes_closeStep? memory moved
      exact ⟨closes.winds (by simp), rfl⟩

end Consumer

namespace System

variable {system : System} {n : Nat} {consumer : Consumer} {action : Action}

/-- A consumer that has stopped is left alone, or it is wound up. -/
theorem winds_next (there : system.consumers[n]? = some consumer)
    (memory : consumer.source.isMemory = true) (stopped : system.HasStopped consumer)
    (action : Action) :
    ∃ after, (system.next action).consumers[n]? = some after ∧
      consumer.Winds system n action after ∧
      happeningsOf (.consumer n) (system.act action).2.2 = [] := by
  obtain ⟨client, source⟩ := Source.isMemory_iff.mp memory
  rcases (system.act_effect action).consumer_frame there with
    ⟨moved, found, changed⟩ | ⟨found, nothing, stuck⟩
  · obtain ⟨winds, nothing⟩ := changed.winds source stopped
    exact ⟨moved, found, winds, nothing⟩
  · refine ⟨consumer, found, .kept ?_ rfl rfl rfl rfl id, nothing⟩
    intro turn
    by_contra running
    have cannot := stuck turn
    rcases stopped.reason with told | isOver
    · cases loop : consumer.loop <;>
        simp_all [Consumer.loopStep?, PollLoop.isRunning]
    · exact running isOver

/-! ## Nothing is fetched any more -/

private theorem HasStopped.of_winds {after : Consumer} (stopped : system.HasStopped consumer)
    (winds : consumer.Winds system n action after) :
    system.HasStopped after ∧
      (consumer.loop.isRunning = false ∨ action = .step (.pollLoop n) →
        after.loop.isRunning = false) := by
  cases winds with
  | received queued =>
      exact ⟨⟨stopped.isOpened, stopped.reason⟩, fun isOver => by simpa using isOver⟩
  | inboxClosed canReceive | inboxDropped => exact ⟨⟨stopped.isOpened, stopped.reason⟩, by
      rintro (isOver | turn)
      · exact isOver
      · cases turn⟩
  | ended => exact ⟨⟨by simp [Consumer.endLoop], .inr rfl⟩, fun _ => rfl⟩
  | kept isOver inbox takesRest loop receipts stays =>
      rw [loop]
      refine ⟨⟨?_, ?_⟩, ?_⟩
      · rw [loop]
        exact stopped.isOpened
      · rw [loop]
        exact stopped.reason.imp_left stays
      · rintro (before | turn)
        · exact before
        · exact isOver turn

/-- The consumer with a number is one of the broker and has stopped. -/
structure IsStopped (system : System) (n : Nat) (consumer : Consumer) : Prop where
  there : system.consumers[n]? = some consumer
  memory : consumer.source.isMemory = true
  hasStopped : system.HasStopped consumer

/-- Who has stopped remains so and fetches nothing, and the loop is over at the latest when it
has had its turn. -/
theorem IsStopped.next (stopped : system.IsStopped n consumer) (action : Action) :
    ∃ after, (system.next action).IsStopped n after ∧ consumer.Winds system n action after ∧
      happeningsOf (.consumer n) (system.act action).2.2 = [] ∧
      (consumer.loop.isRunning = false ∨ action = .step (.pollLoop n) →
        after.loop.isRunning = false) := by
  obtain ⟨after, found, winds, nothing⟩ :=
    winds_next stopped.there stopped.memory stopped.hasStopped action
  obtain ⟨again, foundAgain, akin⟩ := consumer_next stopped.there action
  obtain rfl : again = after := Option.some.inj (foundAgain.symm.trans found)
  obtain ⟨stoppedHere, ends⟩ := stopped.hasStopped.of_winds winds
  refine ⟨again, ⟨found, akin.2.trans stopped.memory, stoppedHere.isOpened, ?_⟩, winds,
    nothing, ends⟩
  exact stoppedHere.reason.imp_left (system.act_effect action).isConsumerStopped

theorem IsStopped.after (stopped : system.IsStopped n consumer) (actions : List Action) :
    ∃ after, (system.after actions).IsStopped n after ∧
      happeningsOf (.consumer n) (system.events actions) = [] ∧
      (consumer.loop.isRunning = false ∨ .step (.pollLoop n) ∈ actions →
        after.loop.isRunning = false) := by
  induction actions generalizing system consumer with
  | nil => exact ⟨consumer, stopped, rfl, fun isOver => by simpa using isOver⟩
  | cons action rest inductionHypothesis =>
      obtain ⟨between, stoppedNext, _, nothing, ends⟩ := stopped.next action
      obtain ⟨after, stoppedAfter, nothingAfter, overAfter⟩ := inductionHypothesis stoppedNext
      refine ⟨after, stoppedAfter, ?_, ?_⟩
      · rw [events_cons, happeningsOf_append, nothing, nothingAfter, List.append_nil]
      · rintro (isOver | turn)
        · exact overAfter (.inl (ends (.inl isOver)))
        · rcases List.mem_cons.mp turn with rfl | later
          · exact overAfter (.inl (ends (.inr rfl)))
          · exact overAfter (.inr later)

end System

end TopicBus
