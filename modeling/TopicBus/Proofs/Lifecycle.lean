import TopicBus.Proofs.Delivery.Receipts
import TopicBus.Proofs.Publishing

/-!
# Opened once and closed once

A publisher or a consumer is opened once and closed once, for good. What is done to it in
between, by the application or by its tasks, takes neither back; so every further open is
refused and every further close returns at once, and neither of them changes anything on the
whole bus.
-/

namespace TopicBus

/-! ## Lives -/

/-- How far the life of a publisher or a consumer has come. -/
structure Life where
  /-- Whether the application still holds it. -/
  isHeld : Bool
  isOpened : Bool
  /-- Whether a close has begun. -/
  isClosing : Bool

/-- How a life goes on, unless its holder lets go. -/
structure Life.GoesOn (letGo : Prop) (life after : Life) : Prop where
  held : ¬letGo → after.isHeld = life.isHeld
  opened : life.isOpened = true → after.isOpened = true
  closing : life.isClosing = true → after.isClosing = true

theorem Life.goesOn_refl (letGo : Prop) (life : Life) : life.GoesOn letGo life :=
  ⟨fun _ => rfl, id, id⟩

/-- Whether a close has begun. -/
def Closing.hasBegun : Closing → Bool
  | .notYet => false
  | _ => true

theorem Closing.hasBegun_of_ne {closing : Closing} (begun : closing ≠ .notYet) :
    closing.hasBegun = true := by
  cases closing with
  | notYet => exact absurd rfl begun
  | flushing deadline | awaitingTask deadline | awaitingReports deadline flushed
  | done result => rfl

def Publisher.life (publisher : Publisher) : Life :=
  ⟨publisher.isHeld, publisher.isOpened, publisher.closing.hasBegun⟩

def Consumer.life (consumer : Consumer) : Life :=
  ⟨consumer.isHeld, consumer.isOpened, consumer.closing.hasBegun⟩

namespace Publisher

variable {publisher after : Publisher} {now : Nat} {cancelled : Bool} {broker brokerAfter : Broker}
  {happenings : List Happening} {letGo : Prop}

theorem PumpStep.isHeld_eq
    (moved : publisher.PumpStep now cancelled broker happenings after brokerAfter) :
    after.isHeld = publisher.isHeld := by
  cases moved with
  | published emptying between shape publishing => cases publishing <;> rfl
  | stopped receiving => rfl
  | handed reports notes handing => rfl
  | emptied emptying empty => rfl
  | flushed notes flushing => rfl

private theorem PumpStep.goesOn
    (moved : publisher.PumpStep now cancelled broker happenings after brokerAfter) :
    publisher.life.GoesOn letGo after.life := by
  refine ⟨fun _ => moved.isHeld_eq, fun _ => moved.isOpened, ?_⟩
  unfold life
  rw [moved.closing_eq]
  exact id

private theorem CloseStep.goesOn (moved : publisher.CloseStep happenings after) :
    publisher.life.GoesOn letGo after.life := by
  cases moved with
  | flushOverdue notes flushing => exact ⟨fun _ => rfl, id, fun _ => rfl⟩
  | pumpFinished awaiting finished => exact ⟨fun _ => rfl, id, fun _ => rfl⟩
  | pumpGone awaiting gone => exact ⟨fun _ => rfl, id, fun _ => rfl⟩
  | pumpOverdue notes awaiting => exact ⟨fun _ => rfl, fun _ => rfl, fun _ => rfl⟩
  | settled notes awaiting => exact ⟨fun _ => rfl, id, fun _ => rfl⟩

private theorem Opens.goesOn {result : Option (Except Fault Nat)}
    (opens : publisher.Opens result after) : publisher.life.GoesOn letGo after.life := by
  cases opens with
  | again isOpened => exact Life.goesOn_refl _ _
  | crashed unstarted tooLarge | started unstarted fits => exact ⟨fun _ => rfl, fun _ => rfl, id⟩

/-- Only a publisher that was not opened returns its channel. -/
theorem Opens.of_ok {capacity : Nat} (opens : publisher.Opens (some (.ok capacity)) after) :
    publisher.isOpened = false ∧ after.isOpened = true := by
  cases opens with
  | started unstarted fits => exact ⟨by rw [isOpened, unstarted], rfl⟩

private theorem beginClose_goesOn (publisher : Publisher) (now : Nat) :
    publisher.life.GoesOn letGo (publisher.beginClose now).life ∧
      (publisher.beginClose now).life.isClosing = true := by
  unfold beginClose
  split
  · dsimp only
    split
    · exact ⟨⟨fun _ => rfl, id, fun _ => rfl⟩, rfl⟩
    · split
      · exact ⟨⟨fun _ => rfl, id, fun _ => rfl⟩, rfl⟩
      · exact ⟨⟨fun _ => rfl, id, fun _ => rfl⟩, rfl⟩
  · rename_i begun
    exact ⟨Life.goesOn_refl _ _, Closing.hasBegun_of_ne begun⟩

private theorem releaseFlush_goesOn (publisher : Publisher) :
    publisher.life.GoesOn letGo publisher.releaseFlush.life := by
  unfold releaseFlush
  split
  · exact ⟨fun _ => rfl, fun _ => rfl, id⟩
  · exact Life.goesOn_refl _ _

/-- Whatever is done to a publisher, its life goes on. -/
theorem Changes.goesOn {system : System} {n : Nat} {action : Action} {reply : Reply}
    (changed : publisher.Changes system n action reply happenings after brokerAfter) :
    publisher.life.GoesOn (action = .dropPublisher n) after.life := by
  cases changed with
  | opened opens => exact opens.goesOn
  | closeBegun isHeld first => exact (publisher.beginClose_goesOn system.now).1
  | dropped => exact ⟨fun held => absurd rfl held, id, id⟩
  | flushReleased => exact publisher.releaseFlush_goesOn
  | pumped moved => exact (pumpStep?_step moved).goesOn
  | drained moved =>
      obtain ⟨reports, drain, notes, rfl, _⟩ := drainStep?_reports moved
      exact Life.goesOn_refl _ _
  | closeStepped moved => exact (closeStep?_step moved).goesOn
  | sent sameKind taken | reserved given | filled sameKind placed | outboxDropped
  | callsTaken scripted => exact Life.goesOn_refl _ _

end Publisher

namespace Consumer

variable {consumer after : Consumer} {broker brokerAfter : Broker} {letGo : Prop}

private theorem finishClose_goesOn (consumer : Consumer) :
    consumer.life.GoesOn letGo consumer.finishClose.life ∧
      consumer.finishClose.life.isClosing = true :=
  ⟨⟨fun _ => rfl, id, fun _ => rfl⟩, rfl⟩

private theorem Opens.goesOn {result : Option (Except Fault Unit)}
    (opens : consumer.Opens result after) : consumer.life.GoesOn letGo after.life := by
  cases opens with
  | again isOpened | refused unstarted subscribing => exact Life.goesOn_refl _ _
  | crashed unstarted subscribing tooLarge | started unstarted subscribing fits =>
      exact ⟨fun _ => rfl, fun _ => rfl, id⟩

/-- Only a consumer that was not opened returns its channel. -/
theorem Opens.of_ok (opens : consumer.Opens (some (.ok ())) after) :
    consumer.isOpened = false ∧ after.isOpened = true := by
  cases opens with
  | started unstarted subscribing fits => exact ⟨by rw [isOpened, unstarted], rfl⟩

private theorem beginClose_goesOn (consumer : Consumer) (now : Nat) :
    consumer.life.GoesOn letGo (consumer.beginClose now).life ∧
      (consumer.beginClose now).life.isClosing = true := by
  unfold beginClose
  split
  · dsimp only
    split
    · exact ⟨⟨fun _ => rfl, id, fun _ => rfl⟩, rfl⟩
    · exact ⟨⟨fun _ => rfl, id, fun _ => rfl⟩, rfl⟩
  · rename_i begun
    exact ⟨Life.goesOn_refl _ _, Closing.hasBegun_of_ne begun⟩

private theorem commit_life {token : Token} {result : Except Fault Unit}
    (done : consumer.commit broker token = (result, after, brokerAfter)) :
    after.life = consumer.life := by
  cases done
  rfl

private theorem ack?_life {receipt : Nat} {result : Except Fault Unit}
    (done : consumer.ack? broker receipt = some (result, after, brokerAfter)) :
    after.life = consumer.life := by
  cases ack?_acking done with
  | again found isAcked => rfl
  | unmade found unacked missing => rfl
  | failed found unacked carried committing => exact commit_life committing
  | marked found unacked carried committing =>
      have kept := commit_life committing
      exact kept

private theorem look_goesOn (consumer : Consumer) (now : Nat) (broker : Broker) :
    consumer.life.GoesOn letGo (consumer.look now broker).1.life := by
  unfold look
  cases consumer.source.poll broker with
  | mk polled source =>
      cases polled with
      | record record =>
          simp only [handle]
          split
          · exact ⟨fun _ => rfl, fun _ => rfl, id⟩
          · split
            · exact ⟨fun _ => rfl, fun _ => rfl, id⟩
            · exact ⟨fun _ => rfl, fun _ => rfl, id⟩
      | idle =>
          have isRunning :=
            PollLoop.isRunning_afterNothing consumer.loop (now + consumer.pollTimeout)
          exact ⟨fun _ => rfl, fun _ => isOpened_of_isRunning isRunning, id⟩
      | nothing | failed fault | crashed => exact ⟨fun _ => rfl, fun _ => rfl, id⟩

private theorem LoopStep.goesOn {now : Nat} {cancelled : Bool} {happenings : List Happening}
    (moved : consumer.LoopStep now cancelled broker after happenings) :
    consumer.life.GoesOn letGo after.life := by
  cases moved with
  | ended reason isRunning => exact ⟨fun _ => rfl, fun _ => rfl, id⟩
  | turned turns goesOn =>
      exact ⟨fun _ => rfl, fun _ => isOpened_of_isRunning turns.leadsTo.1, id⟩
  | asked goesOn asking => exact consumer.look_goesOn now broker
  | put holds hasReceiver hasRoom goesOn => exact ⟨fun _ => rfl, fun _ => rfl, id⟩

private theorem closeStep?_goesOn (moved : consumer.closeStep? = some after) :
    consumer.life.GoesOn letGo after.life := by
  unfold closeStep? at moved
  split at moved
  · cases moved
    exact consumer.finishClose_goesOn.1
  · cases moved
    exact ⟨fun _ => rfl, id, fun _ => rfl⟩
  · cases moved

/-- Whatever is done to a consumer, its life goes on. -/
theorem Changes.goesOn {system : System} {n : Nat} {action : Action} {reply : Reply}
    {happenings : List Happening}
    (changed : consumer.Changes system n action reply happenings after brokerAfter) :
    consumer.life.GoesOn (action = .dropConsumer n) after.life := by
  cases changed with
  | opened opens => exact opens.goesOn
  | received canReceive taken =>
      obtain ⟨_, _, same⟩ := Option.map_eq_some_iff.mp taken
      cases same
      exact Life.goesOn_refl _ _
  | closeBegun isHeld first => exact (consumer.beginClose_goesOn system.now).1
  | dropped => exact ⟨fun held => absurd rfl held, id, id⟩
  | committed done =>
      rw [commit_life done]
      exact Life.goesOn_refl _ _
  | acked done =>
      rw [ack?_life done]
      exact Life.goesOn_refl _ _
  | looped moved => exact (loopStep?_step moved).goesOn
  | closeStepped moved => exact closeStep?_goesOn moved
  | inboxClosed canReceive | inboxDropped | revised scripted
  | callsTaken scripted => exact Life.goesOn_refl _ _

end Consumer

/-! ## Endpoints of a bus -/

/-- A publisher or a consumer of a bus, by its number. -/
inductive Endpoint
  | publisher (number : Nat)
  | consumer (number : Nat)

namespace Endpoint

def opening : Endpoint → Action
  | .publisher n => .openPublisher n
  | .consumer n => .openConsumer n

def closing : Endpoint → Action
  | .publisher n => .closePublisher n
  | .consumer n => .closeConsumer n

def dropping : Endpoint → Action
  | .publisher n => .dropPublisher n
  | .consumer n => .dropConsumer n

/-- The reply to an open of an endpoint that is open already. -/
def alreadyOpen : Endpoint → Reply
  | .publisher _ => .capacity (.error .alreadyOpen)
  | .consumer _ => .outcome (.error .alreadyOpen)

/-- Whether an action is an open of an endpoint that has returned its channel. -/
def isOpenedBy (endpoint : Endpoint) (action : Action) (reply : Reply) : Bool :=
  match endpoint, action, reply with
  | .publisher n, .openPublisher m, .capacity (.ok _) => m = n
  | .consumer n, .openConsumer m, .outcome (.ok ()) => m = n
  | _, _, _ => false

theorem eq_opening_of_isOpenedBy {endpoint : Endpoint} {action : Action} {reply : Reply}
    (opened : endpoint.isOpenedBy action reply = true) : action = endpoint.opening := by
  unfold isOpenedBy at opened
  split at opened
  · rw [of_decide_eq_true opened]
    rfl
  · rw [of_decide_eq_true opened]
    rfl
  · cases opened

end Endpoint

namespace System

variable {system : System} {endpoint : Endpoint} {life : Life}

/-- How far the life of an endpoint has come, if it was made. -/
def life? (system : System) : Endpoint → Option Life
  | .publisher n => system.publishers[n]?.map Publisher.life
  | .consumer n => system.consumers[n]?.map Consumer.life

theorem life_next (there : system.life? endpoint = some life) (action : Action) :
    ∃ after, (system.next action).life? endpoint = some after ∧
      life.GoesOn (action = endpoint.dropping) after := by
  have effect := system.act_effect action
  cases endpoint with
  | publisher n =>
      obtain ⟨publisher, found, rfl⟩ := Option.map_eq_some_iff.mp there
      rcases effect.publisher_frame found with ⟨moved, foundAfter, changed⟩ | ⟨foundAfter, _, _⟩
      · exact ⟨moved.life, congrArg (Option.map Publisher.life) foundAfter, changed.goesOn⟩
      · exact ⟨_, congrArg (Option.map Publisher.life) foundAfter, Life.goesOn_refl _ _⟩
  | consumer n =>
      obtain ⟨consumer, found, rfl⟩ := Option.map_eq_some_iff.mp there
      rcases effect.consumer_frame found with ⟨moved, foundAfter, changed⟩ | ⟨foundAfter, _, _⟩
      · exact ⟨moved.life, congrArg (Option.map Consumer.life) foundAfter, changed.goesOn⟩
      · exact ⟨_, congrArg (Option.map Consumer.life) foundAfter, Life.goesOn_refl _ _⟩

/-- Along a run a life goes on, and it is held as before unless the endpoint is dropped. -/
theorem life_after (there : system.life? endpoint = some life) (actions : List Action) :
    ∃ after, (system.after actions).life? endpoint = some after ∧
      life.GoesOn (endpoint.dropping ∈ actions) after := by
  induction actions generalizing system life with
  | nil => exact ⟨life, there, Life.goesOn_refl _ _⟩
  | cons action rest inductionHypothesis =>
      obtain ⟨moved, thereNext, now⟩ := life_next there action
      obtain ⟨after, thereAfter, later⟩ := inductionHypothesis thereNext
      refine ⟨after, thereAfter, ?_, fun opened => later.opened (now.opened opened),
        fun closing => later.closing (now.closing closing)⟩
      intro kept
      rw [List.mem_cons, not_or] at kept
      exact (later.held kept.2).trans (now.held fun same => kept.1 same.symm)

/-! ## What is answered to opens and closes -/

/-- An open of an endpoint that is opened is refused, and changes nothing on the whole bus. -/
theorem act_opening_of_isOpened (there : system.life? endpoint = some life)
    (opened : life.isOpened = true) :
    system.act endpoint.opening =
      (if life.isHeld then endpoint.alreadyOpen else .absent, system, []) := by
  cases endpoint with
  | publisher n =>
      obtain ⟨publisher, found, rfl⟩ := Option.map_eq_some_iff.mp there
      have refused : publisher.openOutbox = (some (.error .alreadyOpen), publisher) := if_pos opened
      simp only [Endpoint.opening, act, openPublisher, found, refused, setPublisher_same found]
      cases held : publisher.isHeld <;> simp [Publisher.life, held, Endpoint.alreadyOpen, absent]
  | consumer n =>
      obtain ⟨consumer, found, rfl⟩ := Option.map_eq_some_iff.mp there
      have refused : consumer.openInbox = (some (.error .alreadyOpen), consumer) := if_pos opened
      simp only [Endpoint.opening, act, openConsumer, found, refused, setConsumer_same found]
      cases held : consumer.isHeld <;> simp [Consumer.life, held, Endpoint.alreadyOpen, absent]

/-- A close of an endpoint whose close has begun returns at once, and changes nothing on the
whole bus. -/
theorem act_closing_of_isClosing (there : system.life? endpoint = some life)
    (closing : life.isClosing = true) :
    system.act endpoint.closing =
      (if life.isHeld then .outcome (.ok ()) else .absent, system, []) := by
  cases endpoint with
  | publisher n =>
      obtain ⟨publisher, found, rfl⟩ := Option.map_eq_some_iff.mp there
      simp only [Endpoint.closing, act, closePublisher, found]
      cases held : publisher.isHeld with
      | false => simp [Publisher.life, held, absent]
      | true =>
          cases begun : publisher.closing with
          | notYet => simp [Publisher.life, begun, Closing.hasBegun] at closing
          | flushing deadline | awaitingTask deadline | awaitingReports deadline flushed
          | done result => simp [Publisher.life, held]
  | consumer n =>
      obtain ⟨consumer, found, rfl⟩ := Option.map_eq_some_iff.mp there
      simp only [Endpoint.closing, act, closeConsumer, found]
      cases held : consumer.isHeld with
      | false => simp [Consumer.life, held, absent]
      | true =>
          cases begun : consumer.closing with
          | notYet => simp [Consumer.life, begun, Closing.hasBegun] at closing
          | flushing deadline | awaitingTask deadline | awaitingReports deadline flushed
          | done result => simp [Consumer.life, held]

private theorem life?_setPublisher {n : Nat} {before : Publisher}
    (found : system.publishers[n]? = some before) (publisher : Publisher) :
    (system.setPublisher n publisher).life? (.publisher n) = some publisher.life := by
  obtain ⟨inside, _⟩ := List.getElem?_eq_some_iff.mp found
  simp only [life?, setPublisher, List.getElem?_set_self inside, Option.map_some]

private theorem life?_setConsumer {n : Nat} {before : Consumer}
    (found : system.consumers[n]? = some before) (consumer : Consumer) :
    (system.setConsumer n consumer).life? (.consumer n) = some consumer.life := by
  obtain ⟨inside, _⟩ := List.getElem?_eq_some_iff.mp found
  simp only [life?, setConsumer, List.getElem?_set_self inside, Option.map_some]

/-- An endpoint that returns its channel was not opened before, and is opened then. -/
theorem life_opened
    (opened : endpoint.isOpenedBy endpoint.opening (system.act endpoint.opening).1 = true) :
    ∃ life after, system.life? endpoint = some life ∧ life.isOpened = false ∧
      (system.next endpoint.opening).life? endpoint = some after ∧ after.isOpened = true ∧
      after.isHeld = true := by
  cases endpoint with
  | publisher n =>
      unfold next
      simp only [Endpoint.opening, act, openPublisher] at opened ⊢
      split at opened
      · cases opened
      · rename_i publisher found
        split at opened
        · rename_i held
          have opens := publisher.openOutbox_opens
          cases given : publisher.openOutbox.1 with
          | none => simp [Endpoint.isOpenedBy, given] at opened
          | some result =>
              cases result with
              | error fault => simp [Endpoint.isOpenedBy, given] at opened
              | ok capacity =>
                  rw [given] at opens
                  obtain ⟨unopened, isOpened⟩ := opens.of_ok
                  simp only [held, if_true]
                  refine ⟨_, _, congrArg (Option.map Publisher.life) found, unopened,
                    life?_setPublisher found _, isOpened, ?_⟩
                  exact (opens.goesOn.held not_false).trans held
        · cases opened
  | consumer n =>
      unfold next
      simp only [Endpoint.opening, act, openConsumer] at opened ⊢
      split at opened
      · cases opened
      · rename_i consumer found
        split at opened
        · rename_i held
          have opens := consumer.openInbox_opens
          cases given : consumer.openInbox.1 with
          | none => simp [Endpoint.isOpenedBy, given] at opened
          | some result =>
              cases result with
              | error fault => simp [Endpoint.isOpenedBy, given] at opened
              | ok done =>
                  rw [given] at opens
                  obtain ⟨unopened, isOpened⟩ := opens.of_ok
                  simp only [held, if_true]
                  refine ⟨_, _, congrArg (Option.map Consumer.life) found, unopened,
                    life?_setConsumer found _, isOpened, ?_⟩
                  exact (opens.goesOn.held not_false).trans held
        · cases opened

/-- An endpoint that answers to a close is held, and its close has begun then. -/
theorem life_closing (answered : (system.act endpoint.closing).1 ≠ .absent) :
    ∃ after, (system.next endpoint.closing).life? endpoint = some after ∧
      after.isClosing = true ∧ after.isHeld = true := by
  cases endpoint with
  | publisher n =>
      unfold next
      simp only [Endpoint.closing, act, closePublisher] at answered ⊢
      split at answered
      · exact absurd rfl answered
      · rename_i publisher found
        split at answered
        · rename_i held
          obtain ⟨goesOn, isClosing⟩ := publisher.beginClose_goesOn system.now
          simp only [held, if_true]
          split
          · exact ⟨_, life?_setPublisher found _, isClosing, (goesOn.held not_false).trans held⟩
          · rename_i begun
            exact ⟨_, congrArg (Option.map Publisher.life) found,
              Closing.hasBegun_of_ne begun, held⟩
        · exact absurd rfl answered
  | consumer n =>
      unfold next
      simp only [Endpoint.closing, act, closeConsumer] at answered ⊢
      split at answered
      · exact absurd rfl answered
      · rename_i consumer found
        split at answered
        · rename_i held
          obtain ⟨goesOn, isClosing⟩ := consumer.beginClose_goesOn system.now
          simp only [held, if_true]
          split
          · exact ⟨_, life?_setConsumer found _, isClosing, (goesOn.held not_false).trans held⟩
          · rename_i begun
            exact ⟨_, congrArg (Option.map Consumer.life) found, Closing.hasBegun_of_ne begun, held⟩
        · exact absurd rfl answered

/-! ## The number of opens -/

/-- Whether an endpoint was opened. -/
def isOpenedOn (system : System) (endpoint : Endpoint) : Bool :=
  (system.life? endpoint).any Life.isOpened

/-- How often an endpoint returns its channel along a run. -/
def openings (system : System) (endpoint : Endpoint) (actions : List Action) : Nat :=
  (system.run actions).countP fun move => endpoint.isOpenedBy move.action move.reply

theorem openings_cons (system : System) (endpoint : Endpoint) (action : Action)
    (rest : List Action) :
    system.openings endpoint (action :: rest) =
      (endpoint.isOpenedBy action (system.act action).1).toNat +
        (system.next action).openings endpoint rest := by
  simp only [openings, run, List.countP_cons, next]
  cases endpoint.isOpenedBy action (system.act action).1 <;> simp [Nat.add_comm]

/-- What is opened stays opened, and what returns its channel was not opened before. -/
theorem openings_next (system : System) (endpoint : Endpoint) (action : Action) :
    (system.isOpenedOn endpoint).toNat +
        (endpoint.isOpenedBy action (system.act action).1).toNat ≤
      ((system.next action).isOpenedOn endpoint).toNat := by
  cases opened : endpoint.isOpenedBy action (system.act action).1 with
  | true =>
      obtain rfl := Endpoint.eq_opening_of_isOpenedBy opened
      obtain ⟨life, after, there, unopened, found, isOpened, _⟩ := life_opened opened
      simp [isOpenedOn, there, unopened, found, isOpened]
  | false =>
      unfold isOpenedOn
      cases there : system.life? endpoint with
      | none => simp
      | some life =>
          obtain ⟨after, found, goesOn⟩ := life_next there action
          rw [found]
          cases was : life.isOpened with
          | false => simp [was]
          | true => simp [was, goesOn.opened was]

/-- An endpoint returns its channel at most once. -/
theorem openings_le_one (system : System) (endpoint : Endpoint) (actions : List Action) :
    system.openings endpoint actions ≤ 1 := by
  have bounded : (system.isOpenedOn endpoint).toNat + system.openings endpoint actions ≤ 1 := by
    induction actions generalizing system with
    | nil => exact Bool.toNat_le _
    | cons action rest inductionHypothesis =>
        have now := system.openings_next endpoint action
        have later := inductionHypothesis (system.next action)
        rw [openings_cons]
        omega
  omega

/--
A publisher or a consumer returns its channel at most once in any run. Whatever is done after it
was opened, a further open is refused, and after its first close a further close returns at
once. Neither changes anything on the whole bus, and an endpoint that was dropped is not there
to answer.
-/
theorem opened_once_closed_once (system : System) (endpoint : Endpoint) :
    (∀ actions, system.openings endpoint actions ≤ 1) ∧
    (endpoint.isOpenedBy endpoint.opening (system.act endpoint.opening).1 = true →
      ∀ between, let later := (system.next endpoint.opening).after between
        (later.act endpoint.opening).2 = (later, []) ∧
          (endpoint.dropping ∉ between → (later.act endpoint.opening).1 = endpoint.alreadyOpen)) ∧
    ((system.act endpoint.closing).1 ≠ .absent →
      ∀ between, let later := (system.next endpoint.closing).after between
        (later.act endpoint.closing).2 = (later, []) ∧
          (endpoint.dropping ∉ between → (later.act endpoint.closing).1 = .outcome (.ok ()))) := by
  refine ⟨system.openings_le_one endpoint, ?_, ?_⟩
  · intro opened between later
    obtain ⟨_, life, _, _, there, isOpened, held⟩ := life_opened opened
    obtain ⟨after, found, goesOn⟩ := life_after there between
    have answered := act_opening_of_isOpened found (goesOn.opened isOpened)
    refine ⟨congrArg Prod.snd answered, fun kept => ?_⟩
    rw [answered, goesOn.held kept, held]
    rfl
  · intro closed between later
    obtain ⟨life, there, isClosing, held⟩ := life_closing closed
    obtain ⟨after, found, goesOn⟩ := life_after there between
    have answered := act_closing_of_isClosing found (goesOn.closing isClosing)
    refine ⟨congrArg Prod.snd answered, fun kept => ?_⟩
    rw [answered, goesOn.held kept, held]
    rfl

/-- A consumer that has a message in its inbox is opened again, and it is closed again while its
loop comes to its end. -/
theorem opened_once_closed_once_of_busy_consumer :
    let made := (ofRegistry ⟨[(.unit, "beat")], [("beat", .unit)]⟩).after
      [.addConsumer .unit (.memory []) "scope", .append "beat" none (Scan.letters "null")]
    let reading := (made.next (.openConsumer 0)).after [.step (.pollLoop 0), .step (.pollLoop 0)]
    let closing := (reading.next (.closeConsumer 0)).after [.step (.pollLoop 0)]
    made.openings (.consumer 0) [.openConsumer 0, .openConsumer 0] ≤ 1 ∧
      (reading.act (.openConsumer 0)).2 = (reading, []) ∧
      (reading.act (.openConsumer 0)).1 = .outcome (.error .alreadyOpen) ∧
      (closing.act (.closeConsumer 0)).2 = (closing, []) ∧
      (closing.act (.closeConsumer 0)).1 = .outcome (.ok ()) := by
  intro made reading closing
  obtain ⟨once, opened, _⟩ := opened_once_closed_once made (.consumer 0)
  obtain ⟨_, _, closed⟩ := opened_once_closed_once reading (.consumer 0)
  have begun : (reading.act (.closeConsumer 0)).1 = .done := rfl
  have answered : (reading.act (.closeConsumer 0)).1 ≠ .absent := by
    rw [begun]
    exact Reply.noConfusion
  obtain ⟨unchanged, refused⟩ := opened rfl [.step (.pollLoop 0), .step (.pollLoop 0)]
  obtain ⟨still, returned⟩ := closed answered [.step (.pollLoop 0)]
  exact ⟨once _, unchanged, refused (by simp [Endpoint.dropping]), still,
    returned (by simp [Endpoint.dropping])⟩

end System

end TopicBus
