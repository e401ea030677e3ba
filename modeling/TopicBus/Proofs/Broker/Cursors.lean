import TopicBus.Proofs.Broker.Looks

/-!
# Where a client reads

A client may be shared by several holders, who subscribe, poll, commit and close in any order.
Its position is settled by a look and unsettled only by a subscription to another topic than the
present one; in between the records that are read stand one after the other, whoever reads them.
A look that fails changes nothing.
-/

namespace TopicBus

/-! ## Reading on -/

/-- A client begins at a place and reads some records of its topic, one after the other, until
it is behind the last of them. -/
structure Client.ReadsFrom (client : Client) (first : Int) (records : List Record)
    (after : Client) : Prop where
  begins : ∀ position, client.position = some position → position = first
  tokens : ∀ (i : Nat) (record : Record), records[i]? = some record →
    ∃ topic, client.topic = some topic ∧ record.token = ⟨topic, 0, first + i⟩
  ends : after.position = some (first + records.length)

/-- A client reads some records while its position is not unsettled. It may leave its topic, but
it comes to no other. -/
structure Client.ReadsOn (client : Client) (records : List Record) (after : Client) : Prop where
  topic : after.topic = client.topic ∨ after.topic = none
  placed : (records = [] ∧ after.position = client.position) ∨
    ∃ first, client.ReadsFrom first records after

namespace Client

variable {client moved after : Client}

theorem readsOn_refl (client : Client) : client.ReadsOn [] client :=
  ⟨.inl rfl, .inl ⟨rfl, rfl⟩⟩

theorem readsOn_close (client : Client) : client.ReadsOn [] client.close :=
  ⟨.inr rfl, .inl ⟨rfl, rfl⟩⟩

theorem Look.readsOn {broker : Broker} {looked : Except TransportFault (Option Record)}
    (look : client.Look broker looked after) : client.ReadsOn (recordOf looked).toList after := by
  have begins {topic : String} {first : Int} (next : client.nextPosition broker topic = .ok first)
      (position : Int) (placed : client.position = some position) : position = first := by
    simp only [nextPosition, placed] at next
    exact Except.ok.inj next
  cases look with
  | failed fault => exact client.readsOn_refl
  | @nothing topic position subscribed next =>
      refine ⟨.inl rfl, .inr ⟨position, begins next, ?_, ?_⟩⟩
      · rintro i record found
        cases found
      · simp [placed, recordOf, Except.toOption]
  | @read topic offset stored subscribed next found =>
      refine ⟨.inl rfl, .inr ⟨offset, begins next, ?_, ?_⟩⟩
      · intro i record there
        cases i with
        | zero =>
            cases there
            exact ⟨topic, subscribed, by simp [Stored.toRecord]⟩
        | succ i => cases there
      · rfl

/-- Only a look that has read a record counts. -/
theorem Look.fetched_eq {broker : Broker} {looked : Except TransportFault (Option Record)}
    (look : client.Look broker looked after) :
    after.fetched = client.fetched + (recordOf looked).toList.length := by
  cases look with
  | failed fault => rfl
  | nothing subscribed next => rfl
  | read subscribed next found => rfl

theorem ReadsOn.trans {first second : List Record} (early : client.ReadsOn first moved)
    (late : moved.ReadsOn second after) : client.ReadsOn (first ++ second) after := by
  have topic : after.topic = client.topic ∨ after.topic = none := by
    rcases late.topic with same | left
    · rw [same]
      exact early.topic
    · exact .inr left
  -- Whoever reads on has not left the topic before.
  have sameTopic {name : String} (subscribed : moved.topic = some name) :
      client.topic = some name := by
    rcases early.topic with same | left
    · exact same.symm.trans subscribed
    · rw [left] at subscribed
      cases subscribed
  refine ⟨topic, ?_⟩
  rcases early.placed with ⟨rfl, unmoved⟩ | ⟨start, begins, tokens, ends⟩
  · rcases late.placed with ⟨rfl, still⟩ | ⟨start, begins, tokens, ends⟩
    · exact .inl ⟨rfl, still.trans unmoved⟩
    · refine .inr ⟨start, fun position placed => begins position (unmoved.trans placed), ?_, ends⟩
      intro i record found
      obtain ⟨name, subscribed, token⟩ := tokens i record found
      exact ⟨name, sameTopic subscribed, token⟩
  · rcases late.placed with ⟨rfl, still⟩ | ⟨next, continues, further, endsLate⟩
    · rw [List.append_nil]
      exact .inr ⟨start, begins, tokens, still.trans ends⟩
    · obtain rfl : start + first.length = next := continues _ ends
      refine .inr ⟨start, begins, ?_, ?_⟩
      · intro i record found
        rcases Nat.lt_or_ge i first.length with inside | beyond
        · rw [List.getElem?_append_left inside] at found
          exact tokens i record found
        · rw [List.getElem?_append_right beyond] at found
          obtain ⟨name, subscribed, token⟩ := further _ record found
          refine ⟨name, sameTopic subscribed, ?_⟩
          rw [token]
          congr 1
          omega
      · rw [endsLate, List.length_append]
        congr 1
        omega

end Client

/-! ## Polls -/

/-- A poll looks at the log, and once more only if nothing was there and it is woken before its
time is up. -/
structure Poll where
  first : Except Fault (Option Record)
  second : Option (Except Fault (Option Record))
  woken : second.isSome → first = .ok none

namespace Poll

def looks (poll : Poll) : List (Except Fault (Option Record)) :=
  poll.first :: poll.second.toList

/-- The record that a poll returns, if it does. -/
def record? (poll : Poll) : Option Record :=
  recordOf (poll.second.getD poll.first)

/-- A poll returns the only record that its looks have read. -/
theorem filterMap_looks (poll : Poll) : poll.looks.filterMap recordOf = poll.record?.toList := by
  obtain ⟨first, second, woken⟩ := poll
  cases second with
  | none => cases found : recordOf first <;> simp [looks, record?, found]
  | some second =>
      cases woken rfl
      have nothing : recordOf (.ok none : Except Fault (Option Record)) = none := rfl
      cases found : recordOf second <;> simp [looks, record?, found, nothing]

/-- However the looks of several polls follow each other, these polls return what the looks have
read. -/
theorem length_filterMap_of_perm {polls : List Poll} {looked : List (Except Fault (Option Record))}
    (interleaved : (polls.flatMap looks).Perm looked) :
    (polls.filterMap record?).length = (looked.filterMap recordOf).length := by
  rw [← (interleaved.filterMap recordOf).length_eq, List.filterMap_flatMap,
    List.filterMap_eq_flatMap_toList]
  simp only [filterMap_looks]

end Poll

namespace System

variable {system : System} {n : Nat} {client : Client}

/-! ## Positions along a run -/

/-- Whether an action unsettles the position of a client: it subscribes to another topic than
the present one. After a close there is no present topic. -/
def unsettles (system : System) (n : Nat) : Action → Bool
  | .subscribe m topic => m = n && system.clients[n]?.any fun client => client.topic ≠ some topic
  | _ => false

/-- Whether nothing unsettles the position of a client along a run. -/
def staysSettled (system : System) (n : Nat) : List Action → Bool
  | [] => true
  | action :: rest => !system.unsettles n action && (system.next action).staysSettled n rest

theorem readsOn_next (there : system.clients[n]? = some client) {action : Action}
    (settled : system.unsettles n action = false) :
    ∃ moved, (system.next action).clients[n]? = some moved ∧
      client.ReadsOn (system.recordIn n action).toList moved := by
  obtain ⟨moved, found, step⟩ := client_step there action
  refine ⟨moved, found, ?_⟩
  generalize system.recordIn n action = read at step ⊢
  cases step with
  | looked look => exact look.readsOn
  | subscribed topic =>
      have same : client.topic = some topic := by
        simpa [unsettles, there] using settled
      rw [Client.subscribe, if_pos same]
      exact client.readsOn_refl
  | closed => exact client.readsOn_close
  | left spared => exact client.readsOn_refl

/-- As long as nothing unsettles its position, a client reads on. -/
theorem readsOn_after (there : system.clients[n]? = some client) {actions : List Action}
    (settled : system.staysSettled n actions = true) :
    ∃ after, (system.after actions).clients[n]? = some after ∧
      client.ReadsOn (system.readBy n actions) after := by
  induction actions generalizing system client with
  | nil => exact ⟨client, there, client.readsOn_refl⟩
  | cons action rest inductionHypothesis =>
      simp only [staysSettled, Bool.and_eq_true, Bool.not_eq_true'] at settled
      obtain ⟨moved, thereNext, now⟩ := readsOn_next there settled.1
      obtain ⟨after, thereAfter, later⟩ := inductionHypothesis thereNext settled.2
      rw [readBy_cons]
      exact ⟨after, thereAfter, now.trans later⟩

/-! ## The number of records read -/

/-- The count of a client, which is zero before it is made. -/
def fetchedBy (system : System) (n : Nat) : Nat :=
  (system.clients[n]?.map Client.fetched).getD 0

theorem fetchedBy_next (system : System) (n : Nat) (action : Action) :
    (system.next action).fetchedBy n =
      system.fetchedBy n + (system.recordIn n action).toList.length := by
  unfold fetchedBy
  cases there : system.clients[n]? with
  | none =>
      rw [recordIn_of_absent there]
      cases next : (system.next action).clients[n]? with
      | none => rfl
      | some made =>
          obtain ⟨settings, rfl⟩ := client_origin there next
          rfl
  | some client =>
      obtain ⟨moved, found, step⟩ := client_step there action
      rw [found]
      generalize system.recordIn n action = read at step ⊢
      cases step with
      | looked look => exact look.fetched_eq
      | subscribed topic =>
          simp only [Client.subscribe]
          split <;> rfl
      | closed => rfl
      | left spared => rfl

/-- A client counts the records that it reads. -/
theorem fetchedBy_after (system : System) (n : Nat) (actions : List Action) :
    (system.after actions).fetchedBy n =
      system.fetchedBy n + (system.readBy n actions).length := by
  induction actions generalizing system with
  | nil => rfl
  | cons action rest inductionHypothesis =>
      rw [after_cons, inductionHypothesis, fetchedBy_next, readBy_cons, List.length_append]
      omega

/-! ## What changes nothing -/

private theorem setClient_same (there : system.clients[n]? = some client) :
    { system.setClient n client with broker := system.broker } = system := by
  obtain ⟨inside, rfl⟩ := List.getElem?_eq_some_iff.mp there
  simp [setClient]

theorem subscribe_again (there : system.clients[n]? = some client) {topic : String}
    (subscribed : client.topic = some topic) :
    system.act (.subscribe n topic) = (.outcome (.ok ()), system, []) := by
  simp only [act, subscribe, withClient, there, Client.subscribe, subscribed, if_true]
  rw [setClient_same there]

/-- A look that fails changes nothing on the whole bus. -/
theorem fetch_failed (there : system.clients[n]? = some client) {fault : Fault}
    (failed : (system.act (.fetch n)).1 = .fetched (.error fault)) :
    system.act (.fetch n) = (.fetched (.error fault), system, []) := by
  have look := client.next_look system.broker
  rw [act_fetch there] at failed ⊢
  generalize (client.next system.broker).1 = looked at failed look ⊢
  generalize (client.next system.broker).2 = after at look ⊢
  cases look with
  | failed reason =>
      rw [setClient_same there]
      exact congrArg (·, system, []) failed
  | nothing subscribed next => cases failed
  | read subscribed next found => cases failed

/--
A client counts the polls that returned a record, and as long as its position is not unsettled
the records that it reads stand one after the other, by whatever holder's poll. A subscription
to the present topic and a look that fails change nothing at all.
-/
theorem cursor_exact (registry : Registry) (early : List Action) (n : Nat) (client : Client)
    (there : ((ofRegistry registry).after early).clients[n]? = some client) :
    let system := ofRegistry registry
    let now := system.after early
    (client.fetched = (system.readBy n early).length ∧
      ∀ polls : List Poll, (polls.flatMap Poll.looks).Perm (system.looks n early) →
        client.fetched = (polls.filterMap Poll.record?).length) ∧
    (∀ between, now.staysSettled n between = true →
      ∃ later, (now.after between).clients[n]? = some later ∧
        client.ReadsOn (now.readBy n between) later) ∧
    (∀ topic, client.topic = some topic →
      now.act (.subscribe n topic) = (.outcome (.ok ()), now, [])) ∧
    ∀ fault, (now.act (.fetch n)).1 = .fetched (.error fault) →
      now.act (.fetch n) = (.fetched (.error fault), now, []) := by
  intro system now
  have counted : client.fetched = (system.readBy n early).length := by
    have fetched := system.fetchedBy_after n early
    have begun : system.fetchedBy n = 0 := rfl
    rw [begun, Nat.zero_add] at fetched
    rw [← fetched, fetchedBy, there]
    rfl
  refine ⟨⟨counted, ?_⟩, ?_, ?_, ?_⟩
  · intro polls interleaved
    rw [Poll.length_filterMap_of_perm interleaved]
    exact counted
  · intro between settled
    exact readsOn_after there settled
  · intro topic subscribed
    exact subscribe_again there subscribed
  · intro fault failed
    exact fetch_failed there failed

/-- A client waits for a record and is woken by the first of three. -/
def readOnce : List Action :=
  [.addClient { Settings.Consumer.default with group := some "g" }, .subscribe 0 "t", .fetch 0,
    .append "t" none [], .fetch 0, .append "t" none [], .append "t" none []]

/-- Whoever holds the client commits, subscribes once more and reads the other two, until polls
fail. -/
def readTwiceMore : List Action :=
  [.commitClient 0 ⟨"t", 0, 7⟩, .fetch 0, .subscribe 0 "t", .fetch 0, .failPolls "down"]

/-- The records are read one after the other across a commit and a subscription, and a failing
look changes nothing. -/
theorem cursor_exact_of_shared_client :
    let system := ofRegistry .empty
    let client : Client := ⟨some "g", .earliest, some "t", some 1, 1⟩
    let last : Client := ⟨some "g", .earliest, some "t", some 3, 3⟩
    let now := system.after readOnce
    let final := system.after (readOnce ++ readTwiceMore)
    let first := (Stored.ofRaw none []).toRecord ⟨"t", 0, 0⟩
    let woken : Poll := ⟨.ok none, some (.ok (some first)), fun _ => rfl⟩
    client.fetched = ([woken].filterMap Poll.record?).length ∧
      client.ReadsOn (now.readBy 0 readTwiceMore) last ∧
      last.fetched = (system.readBy 0 (readOnce ++ readTwiceMore)).length ∧
      final.act (.subscribe 0 "t") = (.outcome (.ok ()), final, []) ∧
      final.act (.fetch 0) = (.fetched (.error (.transport (.other "down"))), final, []) := by
  intro system client last now final first woken
  have there : now.clients[0]? = some client := by
    decide +kernel
  have thereLast : final.clients[0]? = some last := by
    decide +kernel
  have looked : [woken].flatMap Poll.looks = system.looks 0 readOnce := by
    decide +kernel
  obtain ⟨⟨_, counted⟩, readsOn, _, _⟩ := cursor_exact .empty readOnce 0 client there
  obtain ⟨⟨countedLast, _⟩, _, again, failed⟩ :=
    cursor_exact .empty (readOnce ++ readTwiceMore) 0 last thereLast
  obtain ⟨later, found, reads⟩ := readsOn readTwiceMore (by decide +kernel)
  have same : later = last := by
    have reached : (now.after readTwiceMore).clients[0]? = some last := by
      rw [← after_append]
      exact thereLast
    exact Option.some.inj (found.symm.trans reached)
  subst same
  exact ⟨counted [woken] (.of_eq looked), reads, countedLast, again "t" rfl,
    failed (.transport (.other "down")) rfl⟩

end System

end TopicBus
