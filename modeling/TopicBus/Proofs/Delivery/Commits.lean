import TopicBus.Proofs.Delivery.Redelivery

/-!
# The commits of a run

The application commits by acknowledging a message, or by naming a position to a consumer or to
a client. It is told whether that has succeeded, and the commits of the broker are just those
that have, in the order in which they were made.
-/

namespace TopicBus

/-! ## What is committed by an action -/

/-- Whether an action is of those that commit. -/
def Action.isCommitting : Action → Bool
  | .ack _ _ | .commit _ _ | .commitClient _ _ => true
  | _ => false

namespace System

/-- The commit that an action asks for, if there is anything to be committed and a group to do
it for. -/
def requested? (system : System) : Action → Option Commit
  | .ack n receipt => do
      let consumer ← system.consumers[n]?
      let (group, token) ← consumer.commits? receipt
      return ⟨group, token⟩
  | .commit n token => do
      let consumer ← system.consumers[n]?
      let group ← consumer.source.group?
      return ⟨group, token⟩
  | .commitClient n token => do
      let client ← system.clients[n]?
      let group ← client.group
      return ⟨group, token⟩
  | _ => none

/-- The commit that an action makes: it asks for it and is answered that it has succeeded. -/
def committedBy? (system : System) (action : Action) : Option Commit :=
  match (system.act action).1 with
  | .outcome (.ok ()) => system.requested? action
  | _ => none

/-- The commits that are made along a run, the oldest first. -/
def commitsMade (system : System) : List Action → List Commit
  | [] => []
  | action :: rest => (system.committedBy? action).toList ++ (system.next action).commitsMade rest

end System

/-! ## Actions that do not commit -/

theorem Sink.enqueue_commits (sink : Sink) (now : Nat) (broker : Broker) (outbound : Outbound) :
    (sink.enqueue now broker outbound).2.2.commits = broker.commits := by
  rcases sink.enqueue_broker now broker outbound with same | stored
  · rw [same]
  · rw [stored]
    rfl

namespace Publisher

variable {publisher after : Publisher} {broker brokerAfter : Broker} {happenings : List Happening}

private theorem Published.commits {now : Nat} {emptying : Bool} {message : Message}
    (published : publisher.Published now emptying broker message happenings after brokerAfter) :
    brokerAfter.commits = broker.commits := by
  have enqueued {payload : Text.Bytes} {outcome : Enqueued} {sink : Sink}
      (enqueuing : publisher.sink.enqueue now broker (publisher.outbound message payload) =
        (outcome, sink, brokerAfter)) : brokerAfter.commits = broker.commits := by
    have kept := publisher.sink.enqueue_commits now broker (publisher.outbound message payload)
    rw [enqueuing] at kept
    exact kept
  cases published with
  | unencodable encoding => rfl
  | refused encoding enqueuing => exact enqueued enqueuing
  | crashed encoding enqueuing => exact enqueued enqueuing
  | taken encoding enqueuing => exact enqueued enqueuing

theorem Changes.commits {system : System} {n : Nat} {action : Action} {reply : Reply}
    (changed : publisher.Changes system n action reply happenings after brokerAfter) :
    brokerAfter.commits = system.broker.commits := by
  cases changed with
  | pumped moved =>
      cases pumpStep?_step moved with
      | published emptying between shape publishing => exact publishing.commits
      | stopped receiving => rfl
      | handed reports notes handing => rfl
      | emptied emptying empty => rfl
      | flushed notes flushing => rfl
  | opened opens | sent sameKind taken | reserved given | filled sameKind placed | outboxDropped
  | closeBegun isHeld first | dropped | callsTaken scripted | flushReleased | drained moved
  | closeStepped moved => rfl

end Publisher

/-- What an acknowledgement is to commit, it commits. -/
theorem Consumer.ack?_of_commits {consumer : Consumer} {receipt : Nat} {group : String}
    {token : Token} (commits : consumer.commits? receipt = some (group, token)) (broker : Broker) :
    ∃ after, consumer.ack? broker receipt = some (.ok (), after, broker.commit group token) := by
  simp only [commits?, Option.bind_eq_bind, Option.bind_eq_some_iff] at commits
  obtain ⟨received, found, made, carried, grouped, inGroup, unacked⟩ := commits
  by_cases isAcked : received.isAcked = true
  · simp [isAcked] at unacked
  · have committing : consumer.commit broker made =
        (.ok (), consumer, broker.commit grouped made) := by
      simp only [commit, Source.commit_of_group inGroup]
    simp only [isAcked, Bool.false_eq_true, if_false, Option.some.injEq, Prod.mk.injEq] at unacked
    obtain ⟨rfl, rfl⟩ := unacked
    exact ⟨_, ack?_marked found (Bool.eq_false_iff.mpr isAcked) carried committing⟩

theorem Consumer.Changes.commits {system : System} {n : Nat} {consumer after : Consumer}
    {action : Action} {reply : Reply} {happenings : List Happening} {brokerAfter : Broker}
    (changed : consumer.Changes system n action reply happenings after brokerAfter)
    (silent : action.isCommitting = false) : brokerAfter.commits = system.broker.commits := by
  cases changed with
  | committed done => cases silent
  | acked done => cases silent
  | opened opens | received canReceive taken | inboxClosed canReceive | inboxDropped
  | closeBegun isHeld first | dropped
  | revised scripted | callsTaken scripted | looped moved | closeStepped moved => rfl

namespace System

variable {system : System}

private theorem Effect.commits {after : System} {action : Action} {reply : Reply}
    {events : List Event} (effect : system.Effect action reply after events)
    (silent : action.isCommitting = false) : after.broker.commits = system.broker.commits := by
  cases effect with
  | publisher found changed => exact changed.commits
  | consumer found changed => exact changed.commits silent
  | client found changed =>
      cases changed with
      | committed token => cases silent
      | subscribed topic | fetched | closed => rfl
  | idle unsent unmoved => rfl
  | registered kind name replied => rfl
  | publisherAdded making => rfl
  | consumerAdded making => rfl
  | clientAdded settings => rfl
  | appended topic key payload => rfl
  | enqueued outbound => rfl
  | pollsFailed reason => rfl
  | notified owes => rfl
  | scopeCancelled scope => rfl
  | passed milliseconds => rfl

/-! ## Actions that commit -/

private theorem commits_ack (system : System) (n receipt : Nat) :
    (system.next (.ack n receipt)).broker.commits =
      system.broker.commits ++ (system.committedBy? (.ack n receipt)).toList := by
  simp only [next, committedBy?, requested?, act, ack]
  cases system.consumers[n]? with
  | none => simp [absent]
  | some consumer =>
      cases commits : consumer.commits? receipt with
      | some made =>
          obtain ⟨group, token⟩ := made
          obtain ⟨after, acking⟩ := Consumer.ack?_of_commits commits system.broker
          simp [acking, commits, Broker.commit]
      | none =>
          cases acking : consumer.ack? system.broker receipt with
          | none => simp [absent, acking]
          | some done =>
              obtain ⟨result, after, broker⟩ := done
              have same := Consumer.ack?_commits acking
              rw [commits] at same
              obtain rfl : broker = system.broker := same
              cases result with
              | error fault => simp [acking]
              | ok => simp [acking, commits]

private theorem commits_commit (system : System) (n : Nat) (token : Token) :
    (system.next (.commit n token)).broker.commits =
      system.broker.commits ++ (system.committedBy? (.commit n token)).toList := by
  simp only [next, committedBy?, requested?, act, commit]
  cases system.consumers[n]? with
  | none => simp [absent]
  | some consumer =>
      by_cases isHeld : consumer.isHeld = true
      · cases grouped : consumer.source.group? with
        | none =>
            have kept := Source.commit_of_no_group grouped system.broker token
            cases committing : consumer.source.commit system.broker token with
            | mk result rest =>
                rw [committing] at kept
                have same : rest.2 = system.broker := kept
                cases result with
                | error fault => simp [isHeld, Consumer.commit, committing, same]
                | ok => simp [isHeld, Consumer.commit, committing, same, grouped]
        | some group =>
            have made := Source.commit_of_group grouped system.broker token
            simp [isHeld, Consumer.commit, made, Broker.commit, grouped]
      · simp [isHeld, absent]

private theorem commits_commitClient (system : System) (n : Nat) (token : Token) :
    (system.next (.commitClient n token)).broker.commits =
      system.broker.commits ++ (system.committedBy? (.commitClient n token)).toList := by
  simp only [next, committedBy?, requested?, act, commitClient, withClient]
  cases system.clients[n]? with
  | none => simp [absent]
  | some client =>
      cases grouped : client.group with
      | none => simp [Client.commit, grouped, Except.mapError]
      | some group => simp [Client.commit, grouped, Except.mapError, Broker.commit]

/-- The commits of the broker are those that were made with success. -/
theorem commits_next (system : System) (action : Action) :
    (system.next action).broker.commits =
      system.broker.commits ++ (system.committedBy? action).toList := by
  by_cases commits : action.isCommitting = true
  · cases action with
    | ack n receipt => exact system.commits_ack n receipt
    | commit n token => exact system.commits_commit n token
    | commitClient n token => exact system.commits_commitClient n token
    | _ => cases commits
  · have silent : action.isCommitting = false := by simpa using commits
    have unasked : system.requested? action = none := by
      cases action with
      | ack n receipt | commit n token | commitClient n token => cases silent
      | _ => rfl
    have nothing : system.committedBy? action = none := by
      unfold committedBy?
      split
      · exact unasked
      · rfl
    rw [(system.act_effect action).commits silent, nothing]
    simp

theorem commits_after (system : System) (actions : List Action) :
    (system.after actions).broker.commits =
      system.broker.commits ++ system.commitsMade actions := by
  induction actions generalizing system with
  | nil => simp [commitsMade]
  | cons action rest inductionHypothesis =>
      rw [after_cons, inductionHypothesis, commits_next, commitsMade, List.append_assoc]

end System

end TopicBus
