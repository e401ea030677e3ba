import TopicBus.Proofs.Delivery.Typed
import TopicBus.Proofs.Reports.Accounts
import TopicBus.Proofs.Wire.Orders

/-!
# Orders that are skipped

A publisher stores every order, also one whose amount is no number or is infinite. A consumer of
orders then skips just the records of these: the octets of every other order are decoded, and
give the order back up to its amount.
-/

namespace TopicBus.System

open Decimal (Binary64)

variable {registry : Registry} {actions : List Action} {n : Nat} {consumer : Consumer}
  {client : Client}

section Skips

variable (there : ((ofRegistry registry).after actions).consumers[n]? = some consumer)

include there

private theorem noted_of_fetched {record : Record} {note : Note}
    (fetched : ⟨.consumer n, .fetched record⟩ ∈ (ofRegistry registry).events actions)
    (skips : consumer.topic.skips? record = some note) :
    ⟨.consumer n, .noted note⟩ ∈ (ofRegistry registry).events actions := by
  obtain ⟨polled, member, told⟩ := polled_of_event fetched there
  cases polled with
  | record found =>
      obtain rfl : record = found := by
        rcases List.mem_cons.mp member with same | later
        · cases same
          rfl
        · obtain ⟨other, _, noted⟩ := List.mem_map.mp later
          cases noted
      refine told _ (List.mem_cons_of_mem _ ?_)
      rw [skips]
      exact List.mem_singleton_self _
  | failed fault => cases List.mem_singleton.mp member
  | nothing | idle | crashed => cases member

private theorem fetched_of_noted {note : Note}
    (noted : ⟨.consumer n, .noted note⟩ ∈ (ofRegistry registry).events actions)
    (about : ∀ fault, note ≠ .pollFailed consumer.topic.name fault) :
    ∃ record, consumer.topic.skips? record = some note ∧
      ⟨.consumer n, .fetched record⟩ ∈ (ofRegistry registry).events actions := by
  obtain ⟨polled, member, told⟩ := polled_of_event noted there
  cases polled with
  | record found =>
      refine ⟨found, ?_, told _ List.mem_cons_self⟩
      rcases List.mem_cons.mp member with same | later
      · cases same
      · obtain ⟨other, skips, same⟩ := List.mem_map.mp later
        cases same
        exact Option.mem_toList.mp skips
  | failed fault =>
      cases List.mem_singleton.mp member
      exact absurd rfl (about fault)
  | nothing | idle | crashed => cases member

/-- What is fetched at an offset is the record that stands there. -/
private theorem payload_of_fetched (memory : consumer.source = .memory client) {record : Record}
    {offset : Nat} {stored : Stored}
    (fetched : ⟨.consumer n, .fetched record⟩ ∈ (ofRegistry registry).events actions)
    (place : record.token = ⟨consumer.topic.name, 0, offset⟩)
    (found : (((ofRegistry registry).after actions).broker.log consumer.topic.name)[offset]? =
      some stored) : record.payload = stored.payload := by
  have handles := handles_of_event (readersFollow_ofRegistry registry) fetched there memory
  cases handles with
  | @fetched other standing here =>
      obtain rfl : other = offset := by
        have same : (other : Int) = offset := congrArg Token.offset place
        omega
      obtain rfl : standing = stored := Option.some.inj (here.symm.trans found)
      rfl

end Skips

/-- The record of an order is skipped just if it is fetched and the amount is not finite. -/
private theorem noted_iff
    (there : ((ofRegistry registry).after actions).consumers[n]? = some consumer)
    (memory : consumer.source = .memory client) (ofOrders : consumer.topic.kind = .orderPlaced)
    {offset : Nat} {message : Message} {order : OrderPlaced}
    (isRecord : (ofRegistry registry).IsRecordOf actions consumer.topic offset message)
    (value : message.value = .orderPlaced order) :
    ⟨.consumer n, .noted (.emptyRecord ⟨consumer.topic.name, 0, (offset : Nat)⟩)⟩ ∉
        (ofRegistry registry).events actions ∧
      (⟨.consumer n, .noted (.undecodable ⟨consumer.topic.name, 0, (offset : Nat)⟩)⟩ ∈
          (ofRegistry registry).events actions ↔
        ¬order.amount.IsFinite ∧
          ∃ record, record.token = ⟨consumer.topic.name, 0, (offset : Nat)⟩ ∧
            ⟨.consumer n, .fetched record⟩ ∈ (ofRegistry registry).events actions) := by
  obtain ⟨m, publisher, stored, _, _, _, _, stores, found⟩ := isRecord
  obtain ⟨payload, encoding, _, rfl⟩ := Topic.stored?_eq_some_iff.mp stores
  rw [value] at encoding
  refine ⟨?_, ?_, ?_⟩
  · intro noted
    obtain ⟨record, skips, fetched⟩ := fetched_of_noted there noted (by simp)
    obtain ⟨empty, same⟩ | ⟨_, _, _, _, same⟩ := consumer.topic.skips?_eq_some skips
    · have place := (Note.emptyRecord.inj same).symm
      have holds := payload_of_fetched there memory fetched place found
      rw [empty] at holds
      cases holds
    · cases same
  · intro noted
    obtain ⟨record, skips, fetched⟩ := fetched_of_noted there noted (by simp)
    obtain ⟨_, same⟩ | ⟨octets, flaw, inside, decoding, same⟩ :=
      consumer.topic.skips?_eq_some skips
    · cases same
    · have place := (Note.undecodable.inj same).symm
      have holds := payload_of_fetched there memory fetched place found
      refine ⟨fun finite => ?_, record, place, fetched⟩
      obtain ⟨amount, decoded⟩ := Payload.decode_of_isFinite finite encoding
      rw [inside] at holds
      cases holds
      rw [ofOrders, decoded] at decoding
      cases decoding
  · rintro ⟨strange, record, place, fetched⟩
    have failed := Payload.decode_of_not_isFinite strange encoding
    have holds := payload_of_fetched there memory fetched place found
    apply noted_of_fetched there fetched
    rw [Topic.skips?, holds, ofOrders]
    simp only [Stored.ofOutbound, failed, place]

/-- The octets of an order are read back, up to the amount, just if the amount is finite;
otherwise nothing is read from them. So a consumer of orders that fetches the record of an order
skips it just if the amount is not finite. -/
theorem order_read_back_iff (registry : Registry) (actions : List Action) :
    (∀ (order : OrderPlaced) (initial : Payload), initial.kind = .orderPlaced →
      ∃ bytes, (Payload.orderPlaced order).encode = .ok bytes ∧
        ((∃ amount, initial.decodeInto bytes =
          (.ok (), .orderPlaced { order with amount := amount })) ↔ order.amount.IsFinite) ∧
        (initial.decodeInto bytes = (.error .mismatched, initial) ↔ ¬order.amount.IsFinite)) ∧
    ∀ n consumer client, ((ofRegistry registry).after actions).consumers[n]? = some consumer →
      consumer.source = .memory client → consumer.topic.kind = .orderPlaced →
      ∀ offset message, (ofRegistry registry).IsRecordOf actions consumer.topic offset message →
        ∃ order, message.value = .orderPlaced order ∧
          ⟨.consumer n, .noted (.emptyRecord ⟨consumer.topic.name, 0, (offset : Nat)⟩)⟩ ∉
            (ofRegistry registry).events actions ∧
          (⟨.consumer n, .noted (.undecodable ⟨consumer.topic.name, 0, (offset : Nat)⟩)⟩ ∈
              (ofRegistry registry).events actions ↔
            ¬order.amount.IsFinite ∧
              ∃ record, record.token = ⟨consumer.topic.name, 0, (offset : Nat)⟩ ∧
                ⟨.consumer n, .fetched record⟩ ∈ (ofRegistry registry).events actions) := by
  constructor
  · intro order initial sameKind
    have encoded := Payload.encode_orderPlaced order
    refine ⟨_, encoded, ?_⟩
    by_cases finite : order.amount.IsFinite
    · obtain ⟨amount, decoded⟩ := Payload.decodeInto_of_isFinite sameKind finite encoded
      refine ⟨iff_of_true ⟨amount, decoded⟩ finite, iff_of_false ?_ (not_not.mpr finite)⟩
      intro failed
      rw [decoded] at failed
      cases failed
    · have failed := Payload.decodeInto_of_not_isFinite sameKind finite encoded
      refine ⟨iff_of_false ?_ finite, iff_of_true failed finite⟩
      rintro ⟨amount, decoded⟩
      rw [failed] at decoded
      cases decoded
  · intro n consumer client there memory ofOrders offset message isRecord
    have sameKind : message.value.kind = .orderPlaced := by
      obtain ⟨_, _, _, _, _, _, kind, _⟩ := isRecord
      exact kind.trans ofOrders
    cases value : message.value with
    | orderPlaced order => exact ⟨order, rfl, noted_iff there memory ofOrders isRecord value⟩
    | _ =>
        rw [value] at sameKind
        cases sameKind

/-! ## One order -/

def ordersOnly : Registry :=
  ⟨[(.orderPlaced, "orders")], [("orders", .orderPlaced)]⟩

/-- A message with an order of the given amount. -/
def orderOf (amount : Binary64) : Message :=
  .ofPayload (.orderPlaced ⟨"o", "u", amount, ["a"]⟩)

/-- The message goes from a publisher to a consumer, which polls once. -/
def orderSent (amount : Binary64) : List Action :=
  [.addConsumer .orderPlaced (.memory []) "scope", .addPublisher .orderPlaced (.memory []) "scope",
    .openConsumer 0, .openPublisher 0, .send 0 (orderOf amount), .step (.pump 0),
    .step (.pollLoop 0), .step (.pollLoop 0)]

/-- The bus on which the consumer has just been made. -/
def ordersAwaited : System :=
  (ofRegistry ordersOnly).next (.addConsumer .orderPlaced (.memory []) "scope")

private theorem consumer_orderSent (amount : Binary64) :
    ∃ consumer client,
      ((ofRegistry ordersOnly).after (orderSent amount)).consumers[0]? = some consumer ∧
      consumer.source = .memory client ∧ consumer.topic = ⟨.orderPlaced, "orders"⟩ := by
  have made : ordersAwaited.consumers[0]? =
      some (.create ⟨.orderPlaced, "orders"⟩ (.memory (.ofSettings .default)) .default "scope") :=
    rfl
  obtain ⟨consumer, there, akin⟩ := consumer_after made (orderSent amount).tail
  obtain ⟨client, memory⟩ := Source.isMemory_iff.mp (akin.2.trans rfl)
  exact ⟨consumer, client, there, memory, akin.1⟩

private theorem isRecordOf_orderSent (amount : Binary64) {payload : Text.Bytes}
    (accepted : orderOf amount ∈ (ofRegistry ordersOnly).acceptedBy 0 (orderSent amount))
    (encoded : (orderOf amount).value.encode = .ok payload)
    (found : (((ofRegistry ordersOnly).after (orderSent amount)).broker.log "orders")[0]? =
      some (.ofOutbound ⟨"orders", none, payload, .empty⟩)) :
    (ofRegistry ordersOnly).IsRecordOf (orderSent amount) ⟨.orderPlaced, "orders"⟩ 0
      (orderOf amount) := by
  have stores : (⟨.orderPlaced, "orders"⟩ : Topic).stored? (orderOf amount) =
      some ("orders", .ofOutbound ⟨"orders", none, payload, .empty⟩) :=
    Topic.stored?_eq_some_iff.mpr ⟨payload, encoded, rfl, rfl⟩
  exact ⟨0, _, _, rfl, rfl, accepted, rfl, stores, found⟩

private theorem fetched_orderSent {amount : Binary64}
    (returned : ((ordersAwaited.pollsOf 0 (orderSent amount).tail).filterMap
      Polled.record?).map Record.token = [⟨"orders", 0, 0⟩]) :
    ∃ record, record.token = ⟨"orders", 0, 0⟩ ∧
      ⟨.consumer 0, .fetched record⟩ ∈ (ofRegistry ordersOnly).events (orderSent amount) := by
  obtain ⟨record, inPolls, place⟩ := List.mem_map.mp (returned ▸ List.mem_singleton_self _)
  obtain ⟨polled, member, same⟩ := List.mem_filterMap.mp inPolls
  obtain rfl : polled = .record record := by
    cases polled with
    | record found =>
        cases same
        rfl
    | nothing | idle | failed fault | crashed => cases same
  have resolved : Settings.Consumer.resolve [] = .ok .default := rfl
  have bound : (ofRegistry ordersOnly).registry.topic .orderPlaced = .ok ⟨.orderPlaced, "orders"⟩ :=
    rfl
  have tells : ordersAwaited.TellsPolls 0 ⟨.orderPlaced, "orders"⟩ (orderSent amount).tail :=
    tellsPolls_addConsumer resolved bound _
  have observed : .fetched record ∈
      happeningsOf (.consumer 0) (ordersAwaited.events (orderSent amount).tail) := by
    rw [tells.lines]
    exact List.mem_flatMap.mpr ⟨_, member, List.mem_cons_self⟩
  refine ⟨record, place, ?_⟩
  rw [orderSent, events_cons]
  exact List.mem_append_right _ (mem_happeningsOf_iff.mp observed)

private theorem nan_not_isFinite : ¬Binary64.nan.IsFinite := by
  have meaning : Binary64.nan.meaning = .nan := by decide +kernel
  rintro ⟨negative, size, finite⟩
  rw [meaning] at finite
  cases finite

private theorem isRecordOf_nan :
    (ofRegistry ordersOnly).IsRecordOf (orderSent .nan) ⟨.orderPlaced, "orders"⟩ 0 (orderOf .nan) :=
  isRecordOf_orderSent .nan (by decide +kernel) (Payload.encode_orderPlaced _) (by decide +kernel)

private theorem fetched_nan :
    ∃ record, record.token = ⟨"orders", 0, 0⟩ ∧
      ⟨.consumer 0, .fetched record⟩ ∈ (ofRegistry ordersOnly).events (orderSent .nan) :=
  fetched_orderSent (by decide +kernel)

/-- The record of an order whose amount is no number is skipped, and that of an order for one is
not. -/
theorem order_read_back_of_one_and_of_nan :
    let one := Binary64.ofFields false 1023 0
    ⟨.consumer 0, .noted (.undecodable ⟨"orders", 0, 0⟩)⟩ ∈
        (ofRegistry ordersOnly).events (orderSent .nan) ∧
      ⟨.consumer 0, .noted (.undecodable ⟨"orders", 0, 0⟩)⟩ ∉
        (ofRegistry ordersOnly).events (orderSent one) := by
  intro one
  constructor
  · obtain ⟨consumer, client, there, memory, ofOrders⟩ := consumer_orderSent .nan
    have fate := (order_read_back_iff ordersOnly (orderSent .nan)).2 0 consumer client there memory
      (congrArg Topic.kind ofOrders) 0 (orderOf .nan)
    rw [ofOrders] at fate
    obtain ⟨order, value, _, skipped⟩ := fate isRecordOf_nan
    cases value
    exact skipped.mpr ⟨nan_not_isFinite, fetched_nan⟩
  · obtain ⟨consumer, client, there, memory, ofOrders⟩ := consumer_orderSent one
    have isRecord := isRecordOf_orderSent one (by decide +kernel) (Payload.encode_orderPlaced _)
      (by decide +kernel)
    have finite : one.IsFinite := ⟨false, ⟨2 ^ 52, -52⟩, by decide +kernel⟩
    have fate := (order_read_back_iff ordersOnly (orderSent one)).2 0 consumer client there memory
      (congrArg Topic.kind ofOrders) 0 (orderOf one)
    rw [ofOrders] at fate
    obtain ⟨order, value, _, skipped⟩ := fate isRecord
    cases value
    exact fun noted => (skipped.mp noted).1 finite

/-- Not every order that is encoded can be decoded again, and not every record of an order is
delivered. -/
theorem order_not_read_back :
    (¬∀ (order : OrderPlaced) (initial : Payload) (bytes : Text.Bytes),
      initial.kind = .orderPlaced → (Payload.orderPlaced order).encode = .ok bytes →
        ∃ amount, initial.decodeInto bytes =
          (.ok (), .orderPlaced { order with amount := amount })) ∧
    ¬∀ (registry : Registry) (actions : List Action) (n : Nat) (consumer : Consumer)
      (client : Client) (offset : Nat) (message : Message),
      ((ofRegistry registry).after actions).consumers[n]? = some consumer →
      consumer.source = .memory client → consumer.topic.kind = .orderPlaced →
      (ofRegistry registry).IsRecordOf actions consumer.topic offset message →
        ⟨.consumer n, .noted (.undecodable ⟨consumer.topic.name, 0, (offset : Nat)⟩)⟩ ∉
          (ofRegistry registry).events actions := by
  constructor
  · intro law
    obtain ⟨amount, decoded⟩ := law ⟨"o", "u", .nan, ["a"]⟩ (Payload.Kind.empty .orderPlaced) _ rfl
      (Payload.encode_orderPlaced _)
    rw [Payload.decodeInto_of_not_isFinite rfl nan_not_isFinite (Payload.encode_orderPlaced _)]
      at decoded
    cases decoded
  · intro law
    obtain ⟨consumer, client, there, memory, ofOrders⟩ := consumer_orderSent .nan
    have kind : consumer.topic.kind = .orderPlaced := congrArg Topic.kind ofOrders
    have isRecord := isRecordOf_nan
    have fetched := fetched_nan
    rw [← ofOrders] at isRecord
    have unskipped :=
      law ordersOnly (orderSent .nan) 0 consumer client 0 (orderOf .nan) there memory
      kind isRecord
    apply unskipped
    apply (noted_iff there memory kind isRecord rfl).2.mpr
    rw [ofOrders]
    exact ⟨nan_not_isFinite, fetched⟩

end TopicBus.System
