import Mathlib.Data.List.Infix
import TopicBus.Bus.Consumer

/-!
# The messages of a log

What there is to be delivered of a topic: the records from an offset on, in order, each made
into the message that it decodes to, without those that do not decode. Everything that a
consumer receives is measured by this list.
-/

namespace TopicBus

namespace Topic

variable (topic : Topic)

/-- The message that the record at an offset is made into, if its payload decodes. -/
def message? (offset : Nat) (stored : Stored) : Option Message :=
  match stored.payload with
  | none => none
  | some payload =>
      match Payload.decode topic.kind payload with
      | .error _ => none
      | .ok value => some (Message.ofRecord (stored.toRecord ⟨topic.name, 0, offset⟩) value)

/-- The line that is left for the operator when the record at an offset has no message. -/
def skipNote? (offset : Nat) (stored : Stored) : Option Note :=
  match stored.payload with
  | none => some (.emptyRecord ⟨topic.name, 0, offset⟩)
  | some payload =>
      match Payload.decode topic.kind payload with
      | .error _ => some (.undecodable ⟨topic.name, 0, offset⟩)
      | .ok _ => none

/-- The messages of records that stand one after another, the first at the given offset. -/
def messages : Nat → List Stored → List Message
  | _, [] => []
  | offset, stored :: rest => (topic.message? offset stored).toList ++ messages (offset + 1) rest

@[simp]
theorem messages_nil (offset : Nat) : topic.messages offset [] = [] :=
  rfl

@[simp]
theorem messages_append (offset : Nat) (first second : List Stored) :
    topic.messages offset (first ++ second) =
      topic.messages offset first ++ topic.messages (offset + first.length) second := by
  induction first generalizing offset with
  | nil => simp
  | cons stored rest inductionHypothesis =>
      have shifted : offset + 1 + rest.length = offset + (rest.length + 1) := by omega
      simp only [List.cons_append, messages, inductionHypothesis, List.append_assoc,
        List.length_cons, shifted]

theorem messages_prefix {first second : List Stored} (grown : first <+: second) (offset : Nat) :
    topic.messages offset first <+: topic.messages offset second := by
  obtain ⟨added, rfl⟩ := grown
  rw [messages_append]
  exact List.prefix_append _ _

theorem skipNote?_eq_none_iff {offset : Nat} {stored : Stored} :
    topic.skipNote? offset stored = none ↔
      ∃ message, topic.message? offset stored = some message := by
  unfold skipNote? message?
  cases stored.payload with
  | none => simp
  | some payload =>
      cases decoding : Payload.decode topic.kind payload with
      | error flaw => simp [decoding]
      | ok value => simp [decoding]

theorem message?_eq_some_iff {offset : Nat} {stored : Stored} {message : Message} :
    topic.message? offset stored = some message ↔
      ∃ payload value, stored.payload = some payload ∧
        Payload.decode topic.kind payload = .ok value ∧
        Message.ofRecord (stored.toRecord ⟨topic.name, 0, offset⟩) value = message := by
  unfold message?
  cases stored.payload with
  | none => simp
  | some payload =>
      cases decoding : Payload.decode topic.kind payload with
      | error flaw => simp [decoding]
      | ok value => simp [decoding]

/-- A message tells by its token which record it was made from. -/
theorem message?_token {offset : Nat} {stored : Stored} {message : Message}
    (made : topic.message? offset stored = some message) :
    message.token = some ⟨topic.name, 0, offset⟩ := by
  obtain ⟨payload, value, _, _, rfl⟩ := topic.message?_eq_some_iff.mp made
  rfl

/-- Every message comes from one of the records, and every record that decodes has its message. -/
theorem mem_messages_iff {offset : Nat} {records : List Stored} {message : Message} :
    message ∈ topic.messages offset records ↔
      ∃ place stored, records[place]? = some stored ∧
        topic.message? (offset + place) stored = some message := by
  induction records generalizing offset with
  | nil => simp
  | cons head rest inductionHypothesis =>
      have shifted (place : Nat) : offset + 1 + place = offset + (place + 1) := by omega
      simp only [messages, List.mem_append, Option.mem_toList, inductionHypothesis, shifted]
      constructor
      · rintro (made | ⟨place, stored, found, made⟩)
        · exact ⟨0, head, rfl, made⟩
        · exact ⟨place + 1, stored, found, made⟩
      · rintro ⟨place, stored, found, made⟩
        cases place with
        | zero =>
            cases found
            exact .inl made
        | succ place => exact .inr ⟨place, stored, found, made⟩

end Topic

namespace Broker

variable (broker : Broker) (topic : Topic)

/-- The messages of a topic from an offset on. No record stands at an offset below zero. -/
def messagesFrom (start : Int) : List Message :=
  topic.messages start.toNat ((broker.log topic.name).drop start.toNat)

/-- The messages of a topic from an offset on and before another one. -/
def messagesBetween (start stop : Int) : List Message :=
  topic.messages start.toNat (((broker.log topic.name).take stop.toNat).drop start.toNat)

theorem messagesBetween_prefix (start stop : Int) :
    broker.messagesBetween topic start stop <+: broker.messagesFrom topic start :=
  topic.messages_prefix ((List.take_prefix _ _).drop _) _

@[simp]
theorem messagesBetween_self (start : Int) : broker.messagesBetween topic start start = [] := by
  simp [messagesBetween]

theorem messagesBetween_size (start : Int) :
    broker.messagesBetween topic start (broker.size topic.name) =
      broker.messagesFrom topic start := by
  simp [messagesBetween, messagesFrom, size]

variable {broker topic}

/-- One record more is its message more, if it has one. -/
theorem messagesBetween_succ {start : Int} {stop : Nat} {stored : Stored} (begun : start ≤ stop)
    (found : (broker.log topic.name)[stop]? = some stored) :
    broker.messagesBetween topic start (stop + 1) =
      broker.messagesBetween topic start stop ++ (topic.message? stop stored).toList := by
  obtain ⟨inside, _⟩ := List.getElem?_eq_some_iff.mp found
  have before : start.toNat ≤ stop := by omega
  have taken : (broker.log topic.name).take (stop + 1) =
      (broker.log topic.name).take stop ++ [stored] := by
    rw [List.take_add_one, found]
    rfl
  have length : ((broker.log topic.name).take stop).length = stop := by
    rw [List.length_take]
    omega
  have place :
      start.toNat + (((broker.log topic.name).take stop).drop start.toNat).length = stop := by
    rw [List.length_drop, length]
    omega
  have next : ((stop : Int) + 1).toNat = stop + 1 := by omega
  unfold messagesBetween
  rw [next, Int.toNat_natCast, taken, List.drop_append_of_le_length (by omega),
    Topic.messages_append, place]
  simp [Topic.messages]

theorem messagesBetween_of_grown {after : Broker} {start stop : Int}
    (grown : broker.log topic.name <+: after.log topic.name)
    (inside : stop = start ∨ stop ≤ broker.size topic.name) :
    after.messagesBetween topic start stop = broker.messagesBetween topic start stop := by
  rcases inside with rfl | inside
  · simp
  · obtain ⟨added, same⟩ := grown
    have within : stop.toNat ≤ (broker.log topic.name).length := by
      unfold size at inside
      omega
    unfold messagesBetween
    rw [← same, List.take_append_of_le_length within]

theorem mem_messagesFrom_iff {start : Int} {message : Message} :
    message ∈ broker.messagesFrom topic start ↔
      ∃ offset stored, start ≤ (offset : Nat) ∧ (broker.log topic.name)[offset]? = some stored ∧
        topic.message? offset stored = some message := by
  unfold messagesFrom
  rw [Topic.mem_messages_iff]
  simp only [List.getElem?_drop]
  constructor
  · rintro ⟨place, stored, found, made⟩
    exact ⟨start.toNat + place, stored, by omega, found, made⟩
  · rintro ⟨offset, stored, beyond, found, made⟩
    have place : start.toNat + (offset - start.toNat) = offset := by omega
    refine ⟨offset - start.toNat, stored, ?_, ?_⟩
    · rw [place]
      exact found
    · rw [place]
      exact made

end Broker

end TopicBus
