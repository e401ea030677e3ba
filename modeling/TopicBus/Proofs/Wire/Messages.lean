import TopicBus.Proofs.Bus.Origins
import TopicBus.Proofs.Delivery.Messages
import TopicBus.Proofs.Wire.Records

/-!
# Messages, stored and read again

What is stored of a message has its key, its headers and its payload as octets. They are read
back as they were, so the message that is made from the record is the one that was stored, with
the position of the record as its token.
-/

namespace TopicBus

namespace Headers

private theorem inserted_last {entries : List (String × String)} {name : String}
    (last : ∀ entry ∈ entries, entry.1 < name) (value : String) :
    inserted name value entries = entries ++ [(name, value)] := by
  induction entries with
  | nil => rfl
  | cons entry rest inductionHypothesis =>
      obtain ⟨other, kept⟩ := entry
      have before : other < name := last (other, kept) List.mem_cons_self
      have different : name ≠ other := by
        rintro rfl
        exact String.lt_irrefl _ before
      rw [inserted, if_neg (String.lt_asymm before), if_neg different,
        inductionHypothesis fun entry member => last entry (List.mem_cons_of_mem _ member)]
      rfl

/-- What is in order and stands behind all that is there goes in as it is. -/
private theorem foldl_insert (headers : Headers) {rest : List (String × String)}
    (ordered : (headers.entries ++ rest).Pairwise fun first second => first.1 < second.1) :
    (rest.foldl (fun headers pair => insert pair.1 pair.2 headers) headers).entries =
      headers.entries ++ rest := by
  induction rest generalizing headers with
  | nil => simp
  | cons entry rest inductionHypothesis =>
      have last : ∀ other ∈ headers.entries, other.1 < entry.1 := by
        intro other member
        exact (List.pairwise_append.mp ordered).2.2 other member entry List.mem_cons_self
      have goesLast : (headers.insert entry.1 entry.2).entries = headers.entries ++ [entry] :=
        inserted_last last entry.2
      rw [List.foldl_cons, inductionHypothesis]
      · simp [goesLast]
      · simpa [goesLast] using ordered

/-- Headers are what their own entries make. -/
theorem ofPairs_entries (headers : Headers) : ofPairs headers.entries = headers := by
  ext1
  exact foldl_insert empty headers.ordered

end Headers

namespace Topic

variable {topic : Topic} {message : Message} {name : String} {stored : Stored}

theorem stored?_eq_some_iff :
    topic.stored? message = some (name, stored) ↔
      ∃ payload, message.value.encode = .ok payload ∧ name = topic.name ∧
        stored = .ofOutbound ⟨topic.name, message.key, payload, message.headers⟩ := by
  unfold stored?
  cases message.value.encode with
  | error flaw => simp
  | ok payload =>
      simp only [Option.some.injEq, Prod.mk.injEq, Except.ok.injEq, exists_eq_left']
      constructor
      · rintro ⟨rfl, rfl⟩
        exact ⟨rfl, rfl⟩
      · rintro ⟨rfl, rfl⟩
        exact ⟨rfl, rfl⟩

/-- The record of a message is made into that message again, with its position as the token. -/
theorem message?_of_stored? (noOrder : topic.kind ≠ .orderPlaced)
    (sameKind : message.value.kind = topic.kind)
    (stores : topic.stored? message = some (name, stored))
    (offset : Nat) :
    topic.message? offset stored =
      some { message with token := some ⟨topic.name, 0, offset⟩ } := by
  obtain ⟨payload, encoding, _, rfl⟩ := stored?_eq_some_iff.mp stores
  have decoding : Payload.decode topic.kind payload = .ok message.value := by
    rw [← sameKind] at noOrder ⊢
    exact Payload.decode_encode noOrder encoding
  refine topic.message?_eq_some_iff.mpr ⟨payload, message.value, rfl, decoding, ?_⟩
  simp [Message.ofRecord, Stored.toRecord, Stored.ofOutbound, Headers.map, Function.comp_def,
    Headers.ofPairs_entries]

end Topic

end TopicBus
