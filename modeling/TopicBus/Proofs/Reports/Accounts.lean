import TopicBus.Proofs.Reports.Polls

/-!
# Nothing is lost silently

The log, the inboxes and the lines for the operator account for every message and every record.
A message that a pump takes is stored once, or there is a line that it was left out. A record
that a consumer fetches is made into a message that is put into the inbox, or there is a line
that it was skipped; one message at most may be held when the consumer stops. A poll that fails
leaves its line and is the last one.
-/

namespace TopicBus.System

variable {system : System} {kind : Payload.Kind} {options : Mapping} {scope : String}
  {topic : Topic}

/-! ## Publishers -/

/-- The fates of all messages that the pump of a publisher takes can be told from what is
observed of it and from the log. -/
structure TellsFates (made : System) (n : Nat) (topic : Topic) (later : List Action) : Prop where
  /-- The pump takes what was accepted, in order, and leaves nothing out. -/
  taken : ∃ publisher left, (made.after later).publishers[n]? = some publisher ∧
    made.acceptedBy n later = made.takenBy n later ++ left ∧
    (publisher.pump.isGone = false → left = publisher.outbox.queue)
  /-- Each message that was taken is stored or blamed; the last line may be that the pump was
  given up. -/
  fates : ∃ overdue, fatesOf (happeningsOf (.publisher n) (made.events later)) =
      (made.takenBy n later).map topic.fate ++ overdue ∧
    (overdue = [] ∨ ∃ limit, overdue = [.blamed (.publisherOverdue topic.name limit)])
  /-- So the publisher stores the messages that can be encoded, -/
  stored : (made.storedBy n later).map Entry.stored =
    (made.takenBy n later).filterMap topic.stored?
  /-- each at an offset of its own in the log, -/
  found : ∀ entry ∈ made.storedBy n later,
    ((made.after later).broker.log entry.topic)[entry.offset]? = some entry.record
  once : (made.storedBy n later).Pairwise fun first second =>
    first.topic = second.topic → first.offset < second.offset
  /-- and there is nothing else in the log than what somebody has stored. -/
  whole : (made.after later).broker.appended =
    made.broker.appended ++ (storedIn (made.events later)).map Entry.stored

theorem tellsFates_addPublisher {settings : Settings.Producer}
    (resolved : Settings.Producer.resolve options = .ok settings)
    (bound : system.registry.topic kind = .ok topic) (later : List Action) :
    (system.next (.addPublisher kind (.memory options) scope)).TellsFates system.publishers.length
      topic later := by
  have begun : (system.next (.addPublisher kind (.memory options) scope)).HasSettled
      system.publishers.length topic [] [] [] [] :=
    ⟨_, addPublisher_memory resolved bound, Publisher.carries_create topic settings scope,
      Publisher.settles_create topic settings scope⟩
  generalize system.next (.addPublisher kind (.memory options) scope) = made at *
  generalize system.publishers.length = n at *
  obtain ⟨publisher, there, _, settles⟩ := begun.after later
  simp only [List.nil_append] at settles
  have fates : ∃ overdue, fatesOf (happeningsOf (.publisher n) (made.events later)) =
        (made.takenBy n later).map topic.fate ++ overdue ∧
      (overdue = [] ∨ ∃ limit, overdue = [.blamed (.publisherOverdue topic.name limit)]) := by
    rcases settles.settled with told | ⟨_, _, told⟩
    · exact ⟨[], by rw [told, List.append_nil], .inl rfl⟩
    · exact ⟨_, told, .inr ⟨_, rfl⟩⟩
  have sublist := made.storedBy_sublist n later
  refine ⟨?_, fates, ?_, ?_, (made.entries_increase later).sublist sublist,
    made.appended_after later⟩
  · obtain ⟨left, conserved, same⟩ := settles.conserved
    exact ⟨publisher, left, there, conserved, same⟩
  · obtain ⟨overdue, told, last⟩ := fates
    have unstored : overdue.filterMap Fate.stored? = [] := by
      rcases last with rfl | ⟨limit, rfl⟩ <;> rfl
    have fated : (made.takenBy n later).filterMap (Fate.stored? ∘ topic.fate) =
        (made.takenBy n later).filterMap topic.stored? :=
      congrArg (fun stored? => List.filterMap stored? _) (funext topic.fate_stored?)
    rw [storedBy, entriesOf_stored, told, List.filterMap_append, unstored, List.append_nil,
      List.filterMap_map, fated]
  · intro entry member
    exact (made.entry_found later (sublist.subset member)).2

/-! ## Consumers -/

/-- The outcomes of all polls of a consumer can be told from what is observed of it and from its
inbox. -/
structure TellsPolls (made : System) (n : Nat) (topic : Topic) (later : List Action) : Prop where
  /-- Each poll leaves its lines, and there are no others. -/
  lines : happeningsOf (.consumer n) (made.events later) =
    (made.pollsOf n later).flatMap topic.linesOf
  failed : ∀ first fault rest, made.pollsOf n later = first ++ .failed fault :: rest → rest = []
  /-- The messages of the fetched records are put into the inbox in order; one may wait to be
  put there, and it gets lost only when the consumer is told to stop or nobody receives any
  more. -/
  put : ∃ consumer waiting, (made.after later).consumers[n]? = some consumer ∧
    ((made.pollsOf n later).filterMap Polled.record?).filterMap topic.makes? =
      made.putBy n later ++ Option.toList waiting ∧
    (consumer.inbox.hasReceiver = true →
      consumer.received ++ consumer.inbox.queue = made.putBy n later) ∧
    (consumer.loop.isRunning = true → waiting = consumer.loop.held?) ∧
    (consumer.loop.isRunning = false → waiting.isSome = true →
      (made.after later).isConsumerStopped consumer = true ∨ consumer.inbox.hasReceiver = false)

theorem tellsPolls_addConsumer {settings : Settings.Consumer}
    (resolved : Settings.Consumer.resolve options = .ok settings)
    (bound : system.registry.topic kind = .ok topic) (later : List Action) :
    (system.next (.addConsumer kind (.memory options) scope)).TellsPolls system.consumers.length
      topic later := by
  have there : (system.next (.addConsumer kind (.memory options) scope)).consumers[
      system.consumers.length]? =
        some (.create topic (.memory (.ofSettings settings)) settings scope) :=
    addConsumer_memory resolved bound
  generalize system.next (.addConsumer kind (.memory options) scope) = made at *
  generalize system.consumers.length = n at *
  have begun : made.HasReported n [] [] [] :=
    ⟨_, there, rfl, Consumer.reports_create topic _ settings scope _⟩
  obtain ⟨consumer, found, _, reports⟩ := begun.after later
  simp only [List.nil_append] at reports
  obtain ⟨again, foundAgain, akin⟩ := consumer_after there later
  obtain rfl : again = consumer := Option.some.inj (foundAgain.symm.trans found)
  have sameTopic : again.topic = topic := akin.1
  obtain ⟨waiting, made, held, lost⟩ := reports.made
  rw [sameTopic] at made
  refine ⟨?_, ?_, again, waiting, found, made, reports.arrived, held, lost⟩
  · rw [reports.lines, sameTopic]
  · intro first fault rest shape
    exact (reports.failed first fault rest shape).1

/-! ## The theorem -/

/-- Whatever is done after a publisher or a consumer of the broker was made, in any order,
nothing that it has taken gets lost without a line for the operator, and each line tells what it
is about. -/
theorem nothing_lost_silently (system : System) (later : List Action) (kind : Payload.Kind)
    (options : Mapping) (scope : String) (topic : Topic)
    (bound : system.registry.topic kind = .ok topic) :
    (∀ settings, Settings.Producer.resolve options = .ok settings →
      (system.next (.addPublisher kind (.memory options) scope)).TellsFates
        system.publishers.length topic later) ∧
    (∀ settings, Settings.Consumer.resolve options = .ok settings →
      (system.next (.addConsumer kind (.memory options) scope)).TellsPolls
        system.consumers.length topic later) ∧
    (∀ label, (Note.unencodable topic.name).text label =
      "Dropping message for topic '" ++ topic.name ++ "': serialization error") ∧
    (∀ fault, (Note.pollFailed topic.name fault).level = .error) ∧
    ∀ record, (topic.skips? record = none ↔ ∃ message, topic.makes? record = some message) ∧
      ∀ note, topic.skips? record = some note → note.level = .warn ∧
        ∀ label, ∃ middle rest,
          note.text label = "Skipping message" ++ middle ++ Note.place record.token ++ rest := by
  refine ⟨?_, ?_, fun _ => rfl, fun _ => rfl, ?_⟩
  · intro settings resolved
    exact tellsFates_addPublisher resolved bound later
  · intro settings resolved
    exact tellsPolls_addConsumer resolved bound later
  · intro record
    exact ⟨topic.skips?_eq_none_iff, fun note skipped => topic.skips?_warns skipped⟩

/-- A publisher sends a message that has no JSON form and one that has. A consumer of another
topic reads a record, then a broken one, and then the broker fails. -/
def brokenAndWhole : List Action :=
  [.addPublisher .scores (.memory []) "scope", .addConsumer .unit (.memory []) "scope",
    .openPublisher 0, .openConsumer 0, .send 0 (.ofPayload (.scores ⟨"lap", [((1, 2), 3)]⟩)),
    .step (.pump 0), .send 0 (.ofPayload (.scores ⟨"lap", []⟩)), .step (.pump 0),
    .append "beat" none (Scan.letters "null"), .append "beat" none (Scan.letters "nil")] ++
    List.replicate 7 (.step (.pollLoop 0)) ++ [.failPolls "down", .step .notify,
    .step (.pollLoop 0), .step (.pollLoop 0)]

theorem nothing_lost_silently_of_broken_and_whole :
    let bus := ofRegistry ⟨[(.scores, "scores"), (.unit, "beat")],
      [("scores", .scores), ("beat", .unit)]⟩
    let publishing := bus.next (.addPublisher .scores (.memory []) "scope")
    let reading := bus.next (.addConsumer .unit (.memory []) "scope")
    (∃ overdue, fatesOf (happeningsOf (.publisher 0) (publishing.events brokenAndWhole)) =
      [.blamed (.unencodable "scores"),
        .stored "scores"
          ⟨none, some (Scan.letters "\x7b\"label\":\"lap\",\"by_pair\":\x7b\x7d\x7d"),
          []⟩] ++ overdue) ∧
    happeningsOf (.consumer 0) (reading.events brokenAndWhole) =
      [.fetched ⟨⟨"beat", 0, 0⟩, none, some (Scan.letters "null"), []⟩,
        .fetched ⟨⟨"beat", 0, 1⟩, none, some (Scan.letters "nil"), []⟩,
        .noted (.undecodable ⟨"beat", 0, 1⟩),
        .noted (.pollFailed "beat" (.transport (.other "down")))] := by
  intro bus publishing reading
  have taken : (publishing.takenBy 0 brokenAndWhole).map (Topic.fate ⟨.scores, "scores"⟩) =
      [.blamed (.unencodable "scores"),
        .stored "scores"
          ⟨none, some (Scan.letters "\x7b\"label\":\"lap\",\"by_pair\":\x7b\x7d\x7d"),
          []⟩] := by
    decide +kernel
  have polls : (reading.pollsOf 0 brokenAndWhole).flatMap (Topic.linesOf ⟨.unit, "beat"⟩) =
      [.fetched ⟨⟨"beat", 0, 0⟩, none, some (Scan.letters "null"), []⟩,
        .fetched ⟨⟨"beat", 0, 1⟩, none, some (Scan.letters "nil"), []⟩,
        .noted (.undecodable ⟨"beat", 0, 1⟩),
        .noted (.pollFailed "beat" (.transport (.other "down")))] := by
    decide +kernel
  obtain ⟨tellsFates, _⟩ :=
    nothing_lost_silently bus brokenAndWhole .scores [] "scope" ⟨.scores, "scores"⟩ rfl
  obtain ⟨_, tellsPolls, _⟩ :=
    nothing_lost_silently bus brokenAndWhole .unit [] "scope" ⟨.unit, "beat"⟩ rfl
  obtain ⟨overdue, fates, _⟩ := (tellsFates .default rfl).fates
  refine ⟨⟨overdue, ?_⟩, ?_⟩
  · rw [← taken]
    exact fates
  · rw [← polls]
    exact (tellsPolls .default rfl).lines

end TopicBus.System
