import TopicBus.Proofs.Publishing

/-!
# Publishers after their close

The close of an opened publisher returns only when its pump is finished or lost. The outbox
gives no more places then, and nobody takes what is put into those that are still held, so no
record is stored by that publisher ever after. A publisher that was not open yet when it was
closed is another matter: it can still be opened, and what is sent before the first turn of its
pump is stored.
-/

namespace TopicBus

namespace Pump

/-- Whether a pump still takes messages from the application. -/
def isTaking : Pump → Bool
  | .receiving => true
  | .handing _ isLast => !isLast
  | _ => false

end Pump

/-- Whether a close has passed the pump. -/
def Closing.isPastPump : Closing → Bool
  | .flushing _ | .awaitingReports _ _ | .done _ => true
  | .notYet | .awaitingTask _ => false

namespace Publisher

variable {publisher after : Publisher} {now : Nat} {cancelled : Bool} {broker brokerAfter : Broker}
  {happenings : List Happening}

/-! ## Outboxes without a receiver -/

/-- Only a pump that takes messages keeps the outbox open for more. -/
def IsShut (publisher : Publisher) : Prop :=
  publisher.pump.isTaking = false → publisher.outbox.hasReceiver = false

private theorem isShut_of_isTaking (isTaking : publisher.pump.isTaking = true) :
    publisher.IsShut := by
  intro untaken
  rw [isTaking] at untaken
  cases untaken

private theorem IsShut.opens {result : Option (Except Fault Nat)} (shut : publisher.IsShut)
    (opens : publisher.Opens result after) : after.IsShut := by
  cases opens with
  | again isOpened => exact shut
  | crashed unstarted tooLarge => exact fun _ => shut (by rw [unstarted]; rfl)
  | started unstarted fits => exact isShut_of_isTaking rfl

private theorem isShut_proceed {emptying : Bool}
    (shut : emptying = true → publisher.outbox.hasReceiver = false) :
    (publisher.proceed emptying).IsShut := by
  cases emptying with
  | false => exact isShut_of_isTaking rfl
  | true => exact fun _ => shut rfl

private theorem IsShut.pumpStep (shut : publisher.IsShut)
    (moved : publisher.PumpStep now cancelled broker happenings after brokerAfter) :
    after.IsShut := by
  cases moved with
  | stopped receiving => exact fun _ => rfl
  | published emptying between shape publishing =>
      have emptied : emptying = true → publisher.outbox.hasReceiver = false := by
        rintro rfl
        apply shut
        rw [between]
        rfl
      cases publishing with
      | unencodable encoding => exact isShut_proceed emptied
      | refused encoding enqueued => exact isShut_proceed emptied
      | crashed encoding enqueued => exact fun _ => rfl
      | taken encoding enqueued =>
          cases emptying with
          | false => exact isShut_of_isTaking rfl
          | true => exact fun _ => emptied rfl
  | @handed report emptying reports notes handing =>
      refine isShut_proceed ?_
      rintro rfl
      apply shut
      rw [handing]
      rfl
  | emptied emptying empty =>
      intro _
      apply shut
      rw [emptying]
      rfl
  | flushed notes flushing =>
      intro _
      apply shut
      rw [flushing]
      rfl

private theorem IsShut.closeStep (shut : publisher.IsShut)
    (moved : publisher.CloseStep happenings after) : after.IsShut := by
  cases moved with
  | pumpOverdue notes awaiting => exact fun _ => rfl
  | flushOverdue notes flushing => exact shut
  | pumpFinished awaiting finished => exact shut
  | pumpGone awaiting gone => exact shut
  | settled notes awaiting => exact shut

/-- Whatever is done to a publisher, its outbox is shut as soon as its pump takes nothing more. -/
theorem Changes.isShut {system : System} {n : Nat} {action : Action} {reply : Reply}
    (changed : publisher.Changes system n action reply happenings after brokerAfter)
    (shut : publisher.IsShut) : after.IsShut := by
  cases changed with
  | opened opens => exact shut.opens opens
  | sent sameKind sending =>
      obtain ⟨_, _, rfl⟩ := Channel.send_accepted_iff.mp sending
      exact shut
  | reserved given =>
      obtain ⟨_, _, rfl⟩ := Channel.reserve_accepted_iff.mp given
      exact shut
  | filled sameKind placed | outboxDropped => exact shut
  | closeBegun isHeld first =>
      obtain ⟨sink, stopped, closing, begun⟩ := publisher.beginClose_spares system.now
      rw [begun]
      exact shut
  | dropped => exact shut
  | callsTaken scripted => exact shut
  | flushReleased =>
      unfold releaseFlush
      split
      · rename_i deadline released flushing
        intro _
        apply shut
        rw [flushing]
        rfl
      · exact shut
  | pumped moved => exact shut.pumpStep (pumpStep?_step moved)
  | drained moved =>
      obtain ⟨reports, drain, notes, rfl, _⟩ := drainStep?_reports moved
      exact shut
  | closeStepped moved => exact shut.closeStep (closeStep?_step moved)

/-! ## Closes that have passed the pump -/

/-- A publisher is opened, and its close has passed the pump only when that was over. -/
structure ClosesBehindPump (publisher : Publisher) : Prop where
  isOpened : publisher.isOpened = true
  past : publisher.closing.isPastPump = true → publisher.pump.isOver = true

private theorem ClosesBehindPump.same (behind : publisher.ClosesBehindPump)
    (pump : after.pump = publisher.pump) (closing : after.closing = publisher.closing) :
    after.ClosesBehindPump := by
  constructor
  · unfold Publisher.isOpened
    rw [pump]
    exact behind.isOpened
  · rw [pump, closing]
    exact behind.past

private theorem ClosesBehindPump.pumpStep (behind : publisher.ClosesBehindPump)
    (moved : publisher.PumpStep now cancelled broker happenings after brokerAfter) :
    after.ClosesBehindPump := by
  refine ⟨moved.isOpened, ?_⟩
  rw [moved.closing_eq]
  intro past
  have isOver := behind.past past
  rw [moved.isOver_eq_false] at isOver
  cases isOver

private theorem ClosesBehindPump.closeStep (behind : publisher.ClosesBehindPump)
    (moved : publisher.CloseStep happenings after) : after.ClosesBehindPump := by
  have behindPump {closing : Closing} (isOver : publisher.pump.isOver = true) :
      ClosesBehindPump { publisher with closing := closing } :=
    ⟨behind.isOpened, fun _ => isOver⟩
  cases moved with
  | flushOverdue notes flushing =>
      apply behindPump
      apply behind.past
      rw [flushing]
      rfl
  | pumpFinished awaiting finished =>
      apply behindPump
      rw [finished]
      rfl
  | pumpGone awaiting gone =>
      apply behindPump
      rw [gone]
      rfl
  | pumpOverdue notes awaiting => exact ⟨rfl, fun _ => rfl⟩
  | settled notes awaiting =>
      refine ⟨behind.isOpened, fun _ => behind.past ?_⟩
      rw [awaiting]
      rfl

/-- A close that begins waits for the tasks; if there are none, no pump goes on. -/
private theorem ClosesBehindPump.beginClose (behind : publisher.ClosesBehindPump)
    (first : publisher.closing = .notYet) (now : Nat) :
    (publisher.beginClose now).ClosesBehindPump := by
  by_cases hasTasks : publisher.hasTasks = true
  · rw [beginClose_of_hasTasks hasTasks first]
    refine ⟨behind.isOpened, fun past => ?_⟩
    cases past
  · have missing := pump_of_isOpened behind.isOpened hasTasks
    obtain ⟨sink, stopped, closing, begun⟩ := publisher.beginClose_spares now
    rw [begun]
    refine ⟨behind.isOpened, fun _ => ?_⟩
    rw [missing]
    rfl

end Publisher

/-! ## Runs -/

namespace System

variable {system : System} {n : Nat} {publisher : Publisher}

/-- The outboxes of all pumps that take nothing more are shut. -/
def OutboxesShut (system : System) : Prop :=
  ∀ ⦃n : Nat⦄ ⦃publisher : Publisher⦄, system.publishers[n]? = some publisher → publisher.IsShut

theorem OutboxesShut.next (shut : system.OutboxesShut) (action : Action) :
    (system.next action).OutboxesShut := by
  intro n publisher there
  have effect := system.act_effect action
  cases before : system.publishers[n]? with
  | none =>
      obtain ⟨kind, outlet, scope, rfl, making⟩ := effect.publisher_origin before there
      unfold Publisher.ofOutlet at making
      split at making
      · cases making
      · split at making
        · cases making
        · cases making
          exact fun _ => rfl
  | some old =>
      rcases effect.publisher_frame before with ⟨moved, found, changed⟩ | ⟨found, _, _⟩
      · obtain rfl : moved = publisher := Option.some.inj (found.symm.trans there)
        exact changed.isShut (shut before)
      · obtain rfl : old = publisher := Option.some.inj (found.symm.trans there)
        exact shut before

theorem OutboxesShut.after (shut : system.OutboxesShut) (actions : List Action) :
    (system.after actions).OutboxesShut :=
  after_of_next OutboxesShut (fun _ action shut => shut.next action) shut actions

end System

end TopicBus
