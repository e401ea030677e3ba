import TopicBus.Proofs.Delivery.Reading
import TopicBus.Proofs.Groups.Answers

/-!
# Looks at the log

A client looks for one record at a time. A look fails and changes nothing, or it finds nothing
and settles the position, or it reads the record at the position and passes it. Along a run a
client is changed only by what is done to itself.
-/

namespace TopicBus

/-! ## One look -/

/-- What a look of a client can come to: the result, and the client afterwards. -/
inductive Client.Look (client : Client) (broker : Broker) :
    Except TransportFault (Option Record) → Client → Prop
  | failed (fault : TransportFault) : Look client broker (.error fault) client
  | nothing {topic : String} {position : Int} (subscribed : client.topic = some topic)
      (next : client.nextPosition broker topic = .ok position) :
      Look client broker (.ok none) (client.placed position)
  | read {topic : String} {offset : Nat} {stored : Stored} (subscribed : client.topic = some topic)
      (next : client.nextPosition broker topic = .ok offset)
      (found : (broker.log topic)[offset]? = some stored) :
      Look client broker (.ok (some (stored.toRecord ⟨topic, 0, offset⟩))) (client.passed offset)

/-- A look comes to one of these. -/
theorem Client.next_look (client : Client) (broker : Broker) :
    client.Look broker (client.next broker).1 (client.next broker).2 := by
  unfold Client.next
  split
  · exact .failed _
  · split
    · exact .failed _
    · rename_i topic subscribed
      split
      · exact .failed _
      · rename_i position next
        split
        · exact .nothing subscribed next
        · rename_i record looking
          obtain ⟨offset, stored, rfl, found, rfl⟩ := recordAt?_eq_some_iff.mp looking
          exact .read subscribed next found

/-! ## Looks of a run -/

/-- What a look comes to that is answered to an action, if a client looks by it. -/
def lookIn (n : Nat) (action : Action) (reply : Reply) : Option (Except Fault (Option Record)) :=
  match action, reply with
  | .fetch m, .fetched looked => if m = n then some looked else none
  | _, _ => none

/-- The record that a look has read, if it has. -/
def recordOf {ε : Type} (looked : Except ε (Option Record)) : Option Record :=
  looked.toOption.join

theorem recordOf_eq_some_iff {ε : Type} {looked : Except ε (Option Record)} {record : Record} :
    recordOf looked = some record ↔ looked = .ok (some record) := by
  cases looked with
  | error fault => simp [recordOf, Except.toOption]
  | ok found => simp [recordOf, Except.toOption]

@[simp]
theorem recordOf_mapError {ε ε' : Type} (looked : Except ε (Option Record)) (change : ε → ε') :
    recordOf (looked.mapError change) = recordOf looked := by
  cases looked <;> rfl

/-- What an action can do to the client with the number `n`: the record that it reads by it, and
the client afterwards. -/
inductive Client.Step (client : Client) (n : Nat) (broker : Broker) :
    Action → Option Record → Client → Prop
  | looked {looked : Except TransportFault (Option Record)} {after : Client}
      (look : client.Look broker looked after) :
      Step client n broker (.fetch n) (recordOf looked) after
  | subscribed (topic : String) :
      Step client n broker (.subscribe n topic) none (client.subscribe topic)
  | closed : Step client n broker (.closeClient n) none client.close
  /-- Nothing is done to the client, or it commits a position. -/
  | left {action : Action}
      (spared : action.client? = some n → ∃ token, action = .commitClient n token) :
      Step client n broker action none client

namespace System

/-- What the looks of a client come to along a run, in order. -/
def looks (system : System) (n : Nat) (actions : List Action) :
    List (Except Fault (Option Record)) :=
  (system.run actions).filterMap fun move => lookIn n move.action move.reply

/-- The records that a client reads along a run, in order. -/
def readBy (system : System) (n : Nat) (actions : List Action) : List Record :=
  (system.looks n actions).filterMap recordOf

variable {system : System} {n : Nat} {action : Action}

theorem looks_cons (system : System) (n : Nat) (action : Action) (rest : List Action) :
    system.looks n (action :: rest) =
      (lookIn n action (system.act action).1).toList ++ (system.next action).looks n rest := by
  simp only [looks, run, List.filterMap_cons]
  cases lookIn n action (system.act action).1 with
  | none => rfl
  | some looked => rfl

/-- The record that a client reads by an action, if it does. -/
def recordIn (system : System) (n : Nat) (action : Action) : Option Record :=
  (lookIn n action (system.act action).1).bind recordOf

theorem readBy_cons (system : System) (n : Nat) (action : Action) (rest : List Action) :
    system.readBy n (action :: rest) =
      (system.recordIn n action).toList ++ (system.next action).readBy n rest := by
  unfold readBy recordIn
  rw [looks_cons, List.filterMap_append]
  cases lookIn n action (system.act action).1 with
  | none => rfl
  | some looked => cases found : recordOf looked <;> simp [found]

/-! ## The record read by an action -/

/-- A client reads only by looking. -/
theorem recordIn_of_ne_fetch (different : action ≠ .fetch n) : system.recordIn n action = none := by
  unfold recordIn lookIn
  split
  · rename_i m looked answered
    rw [if_neg fun same => different (congrArg Action.fetch same)]
    rfl
  · rfl

/-- Whoever is not there does not read. -/
theorem recordIn_of_absent (absent : system.clients[n]? = none) :
    system.recordIn n action = none := by
  by_cases looks : action = .fetch n
  · subst looks
    simp [recordIn, act, fetch, withClient, absent, System.absent, lookIn]
  · exact recordIn_of_ne_fetch looks

/-- What is answered to a look is what the client finds. -/
theorem act_fetch {client : Client} (there : system.clients[n]? = some client) :
    system.act (.fetch n) =
      (.fetched ((client.next system.broker).1.mapError .transport),
        { system.setClient n (client.next system.broker).2 with broker := system.broker }, []) := by
  simp only [act, fetch, withClient, there]

/-- The record that is read by a look is what the client finds. -/
theorem recordIn_fetch {client : Client} (there : system.clients[n]? = some client) :
    system.recordIn n (.fetch n) = recordOf (client.next system.broker).1 := by
  unfold recordIn
  rw [act_fetch there]
  simp [lookIn]

/-! ## What is done to a client -/

theorem Effect.clients_cases {after : System} {reply : Reply} {events : List Event}
    (effect : system.Effect action reply after events) :
    after.clients = system.clients ∨
      (∃ m moved, action.client? = some m ∧ after.clients = system.clients.set m moved) ∨
      ∃ settings, action = .addClient settings ∧
        after.clients = system.clients ++ [.ofSettings settings] := by
  cases effect with
  | @client action reply m before moved broker found changed =>
      refine .inr (.inl ⟨m, moved, ?_, rfl⟩)
      cases changed with
      | subscribed topic => rfl
      | fetched => rfl
      | committed token => rfl
      | closed => rfl
  | clientAdded settings => exact .inr (.inr ⟨settings, rfl, rfl⟩)
  | idle unsent unmoved => exact .inl rfl
  | publisher found changed => exact .inl rfl
  | consumer found changed => exact .inl rfl
  | registered kind name replied => exact .inl rfl
  | publisherAdded making => exact .inl rfl
  | consumerAdded making => exact .inl rfl
  | appended topic key payload => exact .inl rfl
  | enqueued outbound => exact .inl rfl
  | pollsFailed reason => exact .inl rfl
  | notified owes => exact .inl rfl
  | scopeCancelled scope => exact .inl rfl
  | passed milliseconds => exact .inl rfl

/-- A client is left alone by every other action. -/
theorem client_left {client : Client} (there : system.clients[n]? = some client)
    (elsewhere : action.client? ≠ some n) : (system.next action).clients[n]? = some client := by
  obtain ⟨inside, _⟩ := List.getElem?_eq_some_iff.mp there
  rcases (system.act_effect action).clients_cases with same | ⟨m, moved, concerned, set⟩ |
    ⟨settings, rfl, added⟩
  · exact same ▸ there
  · have different : m ≠ n := by
      rintro rfl
      exact elsewhere concerned
    exact set ▸ (List.getElem?_set_ne different).trans there
  · exact added ▸ (List.getElem?_append_left inside).trans there

/-- A client that was not there before is new. -/
theorem client_origin {client : Client} (absent : system.clients[n]? = none)
    (there : (system.next action).clients[n]? = some client) :
    ∃ settings, client = .ofSettings settings := by
  have beyond := List.getElem?_eq_none_iff.mp absent
  rcases (system.act_effect action).clients_cases with same | ⟨m, moved, _, set⟩ |
    ⟨settings, rfl, added⟩
  · have found : system.clients[n]? = some client := same ▸ there
    rw [absent] at found
    cases found
  · have found : (system.clients.set m moved)[n]? = some client := set ▸ there
    obtain ⟨inside, _⟩ := List.getElem?_eq_some_iff.mp found
    rw [List.length_set] at inside
    omega
  · have found : (system.clients ++ [Client.ofSettings settings])[n]? = some client :=
      added ▸ there
    rw [List.getElem?_append_right beyond] at found
    exact ⟨settings, (List.mem_singleton.mp (List.mem_of_getElem? found))⟩

/-- A client moves by each action in one of these ways. -/
theorem client_step {client : Client} (there : system.clients[n]? = some client) (action : Action) :
    ∃ moved, (system.next action).clients[n]? = some moved ∧
      client.Step n system.broker action (system.recordIn n action) moved := by
  have placed (moved : Client) : (system.clients.set n moved)[n]? = some moved := by
    obtain ⟨inside, _⟩ := List.getElem?_eq_some_iff.mp there
    exact List.getElem?_set_self inside
  by_cases looks : action = .fetch n
  · subst looks
    refine ⟨(client.next system.broker).2, ?_, ?_⟩
    · rw [next, act_fetch there]
      exact placed _
    · rw [recordIn_fetch there]
      exact .looked (client.next_look system.broker)
  · rw [recordIn_of_ne_fetch looks]
    by_cases concerned : action.client? = some n
    · unfold Action.client? at concerned
      split at concerned
      · rename_i m topic
        cases concerned
        simp only [next, act, subscribe, withClient, there]
        exact ⟨_, placed _, .subscribed topic⟩
      · cases concerned
        exact absurd rfl looks
      · cases concerned
        simp only [next, act, commitClient, withClient, there]
        exact ⟨_, placed _, .left fun _ => ⟨_, rfl⟩⟩
      · cases concerned
        simp only [next, act, closeClient, withClient, there]
        exact ⟨_, placed _, .closed⟩
      · cases concerned
    · exact ⟨client, client_left there concerned, .left fun same => absurd same concerned⟩

end System

end TopicBus
