import TopicBus.Proofs.Publishing

/-!
# What a closing publisher leaves behind

A send gets a place in the outbox first and fills it then. A pump that stops takes what the
outbox holds until it finds it empty; it does not wait for the places that are held at that
time. So what was accepted by then is stored, but a message that is put into a held place later
is accepted and never taken, although the close succeeds. Without such a message a close that
succeeds has lost nothing.
-/

namespace TopicBus

namespace Publisher

/-- What lies in the outbox when the pump has looked into it for the last time. -/
def leftBehind (publisher : Publisher) : List Message :=
  if publisher.pump.isThrough then publisher.outbox.queue else []

/-- Nothing is left behind but what was put into held places too late. -/
def Leaves (publisher : Publisher) (late : List Message) : Prop :=
  publisher.pump.isGone = false → publisher.leftBehind = late

/-- The message that an action puts into a held place after the last look of the pump. -/
def lateIn (publisher : Publisher) (n : Nat) (action : Action) (reply : Reply) : Option Message :=
  match action with
  | .fill _ _ => if publisher.pump.isThrough then acceptedIn n action reply else none
  | _ => none

variable {topic : Topic} {publisher after : Publisher} {accepted late : List Message}
  {stored : List (String × Stored)} {now : Nat} {cancelled : Bool} {broker brokerAfter : Broker}
  {happenings : List Happening}

private theorem Leaves.same (leaves : publisher.Leaves late) (pump : after.pump = publisher.pump)
    (queue : after.outbox.queue = publisher.outbox.queue) : after.Leaves late := by
  unfold Leaves leftBehind at leaves ⊢
  rw [pump, queue]
  exact leaves

/-- As long as the pump goes on, nothing is left behind. -/
private theorem Leaves.of_going (leaves : publisher.Leaves late)
    (there : publisher.pump.isGone = false) (going : publisher.pump.isThrough = false)
    (goesOn : after.pump.isThrough = true → after.outbox.queue = []) : after.Leaves late := by
  intro _
  have nothing : publisher.leftBehind = [] := by simp [leftBehind, going]
  rw [← leaves there, nothing, leftBehind]
  split
  · rename_i isThrough
    exact goesOn isThrough
  · rfl

private theorem isThrough_betweenMessages (emptying : Bool) :
    (betweenMessages emptying).isThrough = false := by
  cases emptying <;> rfl

private theorem Leaves.pumpStep (leaves : publisher.Leaves late)
    (moved : publisher.PumpStep now cancelled broker happenings after brokerAfter) :
    after.Leaves late := by
  cases moved with
  | stopped receiving =>
      apply leaves.of_going
      · rw [receiving]
        rfl
      · rw [receiving]
        rfl
      · intro isThrough
        cases isThrough
  | published emptying between shape publishing =>
      apply leaves.of_going
      · rw [between]
        cases emptying <;> rfl
      · rw [between]
        exact isThrough_betweenMessages emptying
      · intro isThrough
        cases publishing with
        | unencodable encoding | refused encoding enqueued =>
            rw [proceed, isThrough_betweenMessages] at isThrough
            cases isThrough
        | crashed encoding enqueued | taken encoding enqueued => cases isThrough
  | @handed report emptying reports notes handing =>
      apply leaves.of_going
      · rw [handing]
        rfl
      · rw [handing]
        rfl
      · intro isThrough
        rw [proceed, isThrough_betweenMessages] at isThrough
        cases isThrough
  | emptied emptying empty =>
      apply leaves.of_going
      · rw [emptying]
        rfl
      · rw [emptying]
        rfl
      · exact fun _ => empty
  | flushed notes flushing =>
      have left := leaves (by rw [flushing]; rfl)
      intro _
      rw [← left, leftBehind, leftBehind, flushing]
      rfl

private theorem Leaves.opens {result : Option (Except Fault Nat)} (leaves : publisher.Leaves late)
    (carries : publisher.Carries topic accepted stored) (opens : publisher.Opens result after) :
    after.Leaves late := by
  have idle (unstarted : publisher.pump = .unstarted) :
      publisher.pump.isGone = false ∧ publisher.pump.isThrough = false ∧
        publisher.outbox.queue = [] := by
    refine ⟨by rw [unstarted]; rfl, by rw [unstarted]; rfl, ?_⟩
    exact (carries.idle (by rw [hasTasks, unstarted])).1
  cases opens with
  | again isOpened => exact leaves
  | crashed unstarted tooLarge =>
      obtain ⟨there, going, empty⟩ := idle unstarted
      exact leaves.of_going there going fun _ => empty
  | started unstarted fits =>
      obtain ⟨there, going, _⟩ := idle unstarted
      exact leaves.of_going there going fun _ => rfl

private theorem Leaves.beginClose (leaves : publisher.Leaves late) (now : Nat) :
    (publisher.beginClose now).Leaves late := by
  obtain ⟨sink, stopped, closing, begun⟩ := publisher.beginClose_spares now
  rw [begun]
  exact leaves.same rfl rfl

theorem Changes.leaves {system : System} {n : Nat} {action : Action} {reply : Reply}
    (changed : publisher.Changes system n action reply happenings after brokerAfter)
    (carries : publisher.Carries topic accepted stored) (leaves : publisher.Leaves late) :
    after.Leaves (late ++ (publisher.lateIn n action reply).toList) := by
  have still {after : Publisher} (leaves : after.Leaves late) :
      after.Leaves (late ++ (none : Option Message).toList) := by
    simpa using leaves
  cases changed with
  | opened opens => exact still (leaves.opens carries opens)
  | sent sameKind taken =>
      obtain ⟨hasReceiver, _, rfl⟩ := Channel.send_accepted_iff.mp taken
      have going : publisher.pump.isThrough = false := by
        by_contra through
        have isStopping : publisher.pump.isStopping = true := by
          cases pump : publisher.pump <;> simp_all [Pump.isThrough, Pump.isStopping]
        rw [carries.stopping isStopping] at hasReceiver
        cases hasReceiver
      apply still
      intro there
      rw [← leaves there, leftBehind, leftBehind, going]
      rfl
  | reserved given =>
      obtain ⟨_, _, rfl⟩ := Channel.reserve_accepted_iff.mp given
      exact still (leaves.same rfl rfl)
  | @filled message sameKind placed =>
      intro there
      have kept : (publisher.fill message).pump = publisher.pump := rfl
      rw [← leaves there, leftBehind, leftBehind, lateIn, kept]
      cases publisher.pump.isThrough with
      | true => simp [acceptedIn, Publisher.fill, Channel.fill, Channel.push]
      | false => rfl
  | outboxDropped | dropped => exact still (leaves.same rfl rfl)
  | closeBegun isHeld first => exact still (leaves.beginClose system.now)
  | callsTaken scripted => exact still (leaves.same rfl rfl)
  | flushReleased =>
      refine still ?_
      unfold releaseFlush
      split
      · rename_i deadline released flushing
        have left := leaves (by rw [flushing]; rfl)
        intro _
        rw [← left, leftBehind, leftBehind, flushing]
        rfl
      · exact leaves
  | pumped moved => exact still (leaves.pumpStep (pumpStep?_step moved))
  | drained moved =>
      obtain ⟨reports, drain, notes, rfl, _⟩ := drainStep?_reports moved
      exact still (leaves.same rfl rfl)
  | closeStepped moved =>
      refine still ?_
      cases closeStep?_step moved with
      | pumpOverdue notes awaiting =>
          intro there
          cases there
      | flushOverdue notes flushing | pumpFinished awaiting finished | pumpGone awaiting gone
      | settled notes awaiting => exact leaves.same rfl rfl

end Publisher

/-! ## Runs -/

namespace System

variable {system : System} {n : Nat} {topic : Topic} {accepted late : List Message}
  {stored : List (String × Stored)}

/-- A send without a pause is a place that is got and filled at once. -/
theorem act_send_eq {publisher : Publisher} {message : Message}
    (there : system.publishers[n]? = some publisher)
    (sameKind : message.value.kind = publisher.topic.kind)
    (given : (system.act (.reserve n)).1 = .done) :
    system.act (.send n message) = (system.next (.reserve n)).act (.fill n message) := by
  obtain ⟨inside, _⟩ := List.getElem?_eq_some_iff.mp there
  simp only [next, act, reserve, there, Publisher.reserve] at given ⊢
  cases hasSender : publisher.outbox.hasSender with
  | false => simp [hasSender, absent] at given
  | true =>
      cases reserving : publisher.outbox.reserve with
      | mk sent held =>
          obtain rfl : sent = .accepted := by
            cases sent with
            | accepted => rfl
            | full | closed => simp [hasSender, reserving] at given
          obtain ⟨_, _, rfl⟩ := Channel.reserve_accepted_iff.mp reserving
          simp [send, fill, there, hasSender, reserving, sameKind, Publisher.send, Publisher.fill,
            Channel.send, setPublisher, List.getElem?_set_self inside, sending]

/-- The message that an action puts into the outbox of a publisher after the last look of its
pump. -/
def late? (system : System) (n : Nat) (action : Action) : Option Message :=
  system.publishers[n]?.bind fun publisher => publisher.lateIn n action (system.act action).1

/-- The messages that come into the outbox of a publisher along a run when its pump looks no
more. -/
def lateBy (system : System) (n : Nat) (actions : List Action) : List Message :=
  system.seenAlong (fun system => system.late? n) actions

/-- Nothing comes too late where no place is filled after a pause. -/
theorem lateBy_eq_nil {actions : List Action} (unfilled : ∀ message, .fill n message ∉ actions) :
    system.lateBy n actions = [] := by
  induction actions generalizing system with
  | nil => rfl
  | cons action rest inductionHypothesis =>
      have nothing : system.late? n action = none := by
        refine Option.bind_eq_none_iff.mpr fun publisher _ => ?_
        unfold Publisher.lateIn
        split
        · rename_i m message
          have different : m ≠ n := by
            rintro rfl
            exact unfilled message List.mem_cons_self
          rw [acceptedIn_fill_of_ne different, ite_self]
        · rfl
      have later : (system.next action).lateBy n rest = [] :=
        inductionHypothesis fun message member => unfilled message (List.mem_cons_of_mem _ member)
      unfold lateBy at later ⊢
      rw [seenAlong, nothing, later]
      rfl

/-- Along any run a publisher leaves behind what comes too late. -/
theorem leaves_after {publisher : Publisher} (there : system.publishers[n]? = some publisher)
    (carries : publisher.Carries topic accepted stored) (leaves : publisher.Leaves late)
    (actions : List Action) :
    ∃ after, (system.after actions).publishers[n]? = some after ∧
      after.Carries topic (accepted ++ system.acceptedBy n actions)
        (stored ++ (system.storedBy n actions).map Entry.stored) ∧
      after.Leaves (late ++ system.lateBy n actions) := by
  induction actions generalizing system publisher accepted stored late with
  | nil => exact ⟨publisher, there, by simpa [acceptedBy, storedBy, run] using carries,
      by simpa [lateBy, seenAlong] using leaves⟩
  | cons action rest inductionHypothesis =>
      have seen : system.late? n action = publisher.lateIn n action (system.act action).1 := by
        simp [late?, there]
      have next : ∃ after, (system.next action).publishers[n]? = some after ∧
          after.Carries topic (accepted ++ (acceptedIn n action (system.act action).1).toList)
            (stored ++ (entriesOf (happeningsOf (.publisher n) (system.act action).2.2)).map
              Entry.stored) ∧
          after.Leaves (late ++ (system.late? n action).toList) := by
        rw [seen]
        rcases (system.act_effect action).publisher_frame there with
          ⟨moved, thereAfter, changed⟩ | ⟨thereAfter, silent, untaken⟩
        · exact ⟨moved, thereAfter, changed.carries carries, changed.leaves carries leaves⟩
        · refine ⟨publisher, thereAfter, by simpa [silent, untaken] using carries, ?_⟩
          have nothing : publisher.lateIn n action (system.act action).1 = none := by
            unfold Publisher.lateIn
            split
            · rw [untaken, ite_self]
            · rfl
          simpa [nothing] using leaves
      obtain ⟨after, thereAfter, carriesAfter, leavesAfter⟩ := next
      obtain ⟨last, thereLast, carriesLast, leavesLast⟩ :=
        inductionHypothesis thereAfter carriesAfter leavesAfter
      refine ⟨last, thereLast, ?_, ?_⟩
      · rw [acceptedBy_cons, storedBy_cons]
        simpa using carriesLast
      · simpa [lateBy, seenAlong] using leavesLast

/-! ## The theorem -/

/--
A publisher over the broker is opened before it is closed, and its first close succeeds,
whatever else is done in any order. Then its outbox has accepted some messages in time and the
others too late, into places that were still held when the pump looked for the last time. It has
stored exactly those in time that can be encoded, in their order; each record stands in the log
of its topic, the later ones behind the earlier ones; and nothing has been stored but what
somebody has stored. So all that was accepted and can be encoded is stored just if none of the
late messages can be encoded.
-/
theorem accepted_stored_iff_of_closed (system : System) (early late : List Action)
    (kind : Payload.Kind) (options : Mapping) (scope : String) (settings : Settings.Producer)
    (topic : Topic) (opened closed : Publisher)
    (resolved : Settings.Producer.resolve options = .ok settings)
    (bound : system.registry.topic kind = .ok topic)
    (thereEarly : ((system.next (.addPublisher kind (.memory options) scope)).after
      early).publishers[system.publishers.length]? = some opened)
    (isOpened : opened.isOpened = true) (unclosed : opened.closing = .notYet)
    (thereLate : ((system.next (.addPublisher kind (.memory options) scope)).after
      (early ++ late)).publishers[system.publishers.length]? = some closed)
    (succeeded : closed.closing = .done (.ok ())) :
    let n := system.publishers.length
    let made := system.next (.addPublisher kind (.memory options) scope)
    let run := early ++ late
    let final := made.after run
    (∃ inTime, made.acceptedBy n run = inTime ++ made.lateBy n run ∧
        (made.storedBy n run).map Entry.stored = inTime.filterMap topic.stored?) ∧
      ((made.storedBy n run).map Entry.stored = (made.acceptedBy n run).filterMap topic.stored? ↔
        ∀ message ∈ made.lateBy n run, topic.stored? message = none) ∧
      ((∀ message, .fill n message ∉ run) → made.lateBy n run = []) ∧
      (∀ entry ∈ made.storedBy n run, entry.topic = topic.name ∧
        (final.broker.log topic.name)[entry.offset]? = some entry.record) ∧
      (made.storedBy n run).Pairwise (fun earlier later => earlier.offset < later.offset) ∧
      final.broker.appended =
        made.broker.appended ++ (storedIn (made.events run)).map Entry.stored := by
  intro n made run final
  have nothingLeft : (Publisher.create topic .memory settings scope).Leaves [] :=
    fun _ => rfl
  obtain ⟨publisher, there, carries, leaves⟩ := leaves_after (addPublisher_memory resolved bound)
    (Publisher.carries_create topic settings scope) nothingLeft run
  obtain rfl : publisher = closed := Option.some.inj (there.symm.trans thereLate)
  -- The close has waited for the pump, which takes nothing any more.
  obtain ⟨same, thereToo, inOrder⟩ := closesInOrder_after thereEarly
    ⟨isOpened, by simp [unclosed]⟩ late
  rw [← after_append] at thereToo
  obtain rfl : same = publisher := Option.some.inj (thereToo.symm.trans thereLate)
  have through := inOrder.through (.inr succeeded)
  have unlost := Pump.not_isGone_of_isThrough through
  obtain ⟨inTime, conserved, put⟩ := carries.conserved unlost
  have left : same.outbox.queue = made.lateBy n run := by
    have behind := leaves unlost
    rw [Publisher.leftBehind, if_pos through] at behind
    exact behind
  rw [left, List.nil_append] at conserved
  rw [List.nil_append] at put
  have onTopic : ∀ entry ∈ made.storedBy n run, entry.topic = topic.name := by
    intro entry member
    have image : entry.stored ∈ inTime.filterMap topic.stored? := by
      rw [← put]
      exact List.mem_map_of_mem member
    obtain ⟨message, _, stores⟩ := List.mem_filterMap.mp image
    unfold Topic.stored? at stores
    split at stores
    · cases stores
    · exact (congrArg Prod.fst (Option.some.inj stores)).symm
  have sublist := made.storedBy_sublist n run
  refine ⟨⟨inTime, conserved, put⟩, ?_, lateBy_eq_nil, ?_, ?_, made.appended_after run⟩
  · rw [put, conserved, List.filterMap_append, List.self_eq_append_right, List.filterMap_eq_nil_iff]
  · intro entry member
    obtain ⟨_, found⟩ := made.entry_found run (sublist.subset member)
    rw [onTopic entry member] at found
    exact ⟨onTopic entry member, found⟩
  · refine ((made.entries_increase run).sublist sublist).imp_of_mem ?_
    intro earlier later here there increase
    exact increase ((onTopic earlier here).trans (onTopic later there).symm)

/-- A publisher takes a message, and a record of somebody else comes behind it. A second send
has its place when the scope is cancelled and the pump stops; it fills the place when the pump
is through, and then the publisher is closed. -/
def filledTooLate : List Action :=
  [.send 0 (.ofPayload .unit), .step (.pump 0), .append "beat" none [], .step (.pump 0), .reserve 0,
    .cancel "scope", .step (.pump 0), .step (.pump 0),
    .fill 0 ((Message.ofPayload .unit).withKey "k"),
    .step (.drain 0), .step (.drain 0), .closePublisher 0, .step (.closePublisher 0),
    .step (.closePublisher 0)]

/-- What is sent in time is stored, and what comes too late is all that is lost. -/
theorem accepted_stored_iff_of_filled_too_late :
    let made := (ofRegistry ⟨[(.unit, "beat")], [("beat", .unit)]⟩).next
      (.addPublisher .unit (.memory []) "scope")
    let run := [.openPublisher 0] ++ filledTooLate
    ∃ inTime, made.acceptedBy 0 run = inTime ++ [(Message.ofPayload .unit).withKey "k"] ∧
      (made.storedBy 0 run).map Entry.stored =
        inTime.filterMap (Topic.stored? ⟨.unit, "beat"⟩) :=
  (accepted_stored_iff_of_closed (ofRegistry ⟨[(.unit, "beat")], [("beat", .unit)]⟩)
    [.openPublisher 0] filledTooLate .unit [] "scope" .default ⟨.unit, "beat"⟩ _ _
    rfl rfl rfl rfl rfl rfl rfl).1

/-- A message is accepted and the first close succeeds, but nothing is stored: the message comes
into a place that was got before the close began, after the pump had found the outbox empty. -/
theorem accepted_not_stored :
    let made := (ofRegistry ⟨[(.unit, "beat")], [("beat", .unit)]⟩).after
      [.addPublisher .unit (.memory []) "scope", .openPublisher 0]
    let run : List Action :=
      [.reserve 0, .closePublisher 0, .step (.pump 0), .step (.pump 0), .fill 0 (.ofPayload .unit),
        .step (.drain 0), .step (.closePublisher 0), .step (.closePublisher 0)]
    (∃ closed, (made.after run).publishers[0]? = some closed ∧ closed.closing = .done (.ok ())) ∧
      made.acceptedBy 0 run = [.ofPayload .unit] ∧
      Topic.stored? ⟨.unit, "beat"⟩ (.ofPayload .unit) =
        some ("beat", ⟨none, some (Scan.letters "null"), []⟩) ∧
      made.storedBy 0 run = [] ∧ (made.after run).broker.appended = [] :=
  ⟨⟨_, rfl, rfl⟩, rfl, rfl, rfl, rfl⟩

end System

end TopicBus
