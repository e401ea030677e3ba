import TopicBus.Bus.Consumer

/-!
# One acknowledgement

A message that was acknowledged before, or that cannot be acknowledged at all, leaves everything
as it is. Otherwise the position of its record is committed, and its receipt is marked just if
that succeeds.
-/

namespace TopicBus

namespace Consumer

/-- What an acknowledgement of the message received after `n` others can be: the result, the
consumer and the broker afterwards. -/
inductive Acking (consumer : Consumer) (broker : Broker) (n : Nat) :
    Except Fault Unit → Consumer → Broker → Prop
  | again {receipt : Receipt} (found : consumer.receipts[n]? = some receipt)
      (isAcked : receipt.isAcked = true) : Acking consumer broker n (.ok ()) consumer broker
  | unmade {receipt : Receipt} (found : consumer.receipts[n]? = some receipt)
      (unacked : receipt.isAcked = false) (missing : receipt.message.token = none) :
      Acking consumer broker n (.error .notAckable) consumer broker
  | failed {receipt : Receipt} {token : Token} {fault : Fault} {after : Consumer}
      {brokerAfter : Broker} (found : consumer.receipts[n]? = some receipt)
      (unacked : receipt.isAcked = false) (carried : receipt.message.token = some token)
      (committing : consumer.commit broker token = (.error fault, after, brokerAfter)) :
      Acking consumer broker n (.error fault) after brokerAfter
  | marked {receipt : Receipt} {token : Token} {after : Consumer} {brokerAfter : Broker}
      (found : consumer.receipts[n]? = some receipt) (unacked : receipt.isAcked = false)
      (carried : receipt.message.token = some token)
      (committing : consumer.commit broker token = (.ok (), after, brokerAfter)) :
      Acking consumer broker n (.ok ())
        { after with receipts := consumer.receipts.set n { receipt with isAcked := true } }
        brokerAfter

variable {consumer after : Consumer} {broker brokerAfter : Broker} {n : Nat} {receipt : Receipt}
  {token : Token} {result : Except Fault Unit}

theorem receipts_commit (done : consumer.commit broker token = (result, after, brokerAfter)) :
    after.receipts = consumer.receipts := by
  cases done
  rfl

/-- A receipt that is put where it was changes nothing. -/
private theorem set_receipt_self (found : consumer.receipts[n]? = some receipt)
    (same : after.receipts = consumer.receipts) :
    { after with receipts := after.receipts.set n receipt } = after := by
  obtain ⟨inside, rfl⟩ := List.getElem?_eq_some_iff.mp found
  rw [same, List.set_getElem_self, ← same]

/-- A message is acknowledged in one of these ways. -/
theorem ack?_acking (done : consumer.ack? broker n = some (result, after, brokerAfter)) :
    consumer.Acking broker n result after brokerAfter := by
  unfold ack? at done
  obtain ⟨receipt, found, acking⟩ := Option.map_eq_some_iff.mp done
  simp only [Receipt.ack] at acking
  split at acking
  · rename_i isAcked
    rw [set_receipt_self found rfl] at acking
    cases acking
    exact .again found isAcked
  · rename_i unacked
    have unacked : receipt.isAcked = false := Bool.eq_false_iff.mpr unacked
    split at acking
    · rename_i missing
      rw [set_receipt_self found rfl] at acking
      cases acking
      exact .unmade found unacked missing
    · rename_i token carried
      cases committing : consumer.commit broker token with
      | mk committed rest =>
          obtain ⟨moved, brokerMoved⟩ := rest
          rw [committing] at acking
          cases committed with
          | error fault =>
              rw [set_receipt_self found (receipts_commit committing)] at acking
              cases acking
              exact .failed found unacked carried committing
          | ok =>
              simp only [receipts_commit committing] at acking
              cases acking
              exact .marked found unacked carried committing

/-! ## Each way, from its conditions -/

theorem ack?_again (found : consumer.receipts[n]? = some receipt) (isAcked : receipt.isAcked = true)
    (broker : Broker) : consumer.ack? broker n = some (.ok (), consumer, broker) := by
  simp [ack?, Receipt.ack, found, isAcked, set_receipt_self found rfl]

theorem ack?_unmade (found : consumer.receipts[n]? = some receipt)
    (unacked : receipt.isAcked = false) (missing : receipt.message.token = none)
    (broker : Broker) : consumer.ack? broker n = some (.error .notAckable, consumer, broker) := by
  simp [ack?, Receipt.ack, found, unacked, missing, set_receipt_self found rfl]

theorem ack?_failed {fault : Fault} (found : consumer.receipts[n]? = some receipt)
    (unacked : receipt.isAcked = false) (carried : receipt.message.token = some token)
    (committing : consumer.commit broker token = (.error fault, after, brokerAfter)) :
    consumer.ack? broker n = some (.error fault, after, brokerAfter) := by
  simp [ack?, Receipt.ack, found, unacked, carried, committing,
    set_receipt_self found (receipts_commit committing)]

theorem ack?_marked (found : consumer.receipts[n]? = some receipt)
    (unacked : receipt.isAcked = false) (carried : receipt.message.token = some token)
    (committing : consumer.commit broker token = (.ok (), after, brokerAfter)) :
    consumer.ack? broker n =
      some (.ok (),
        { after with receipts := consumer.receipts.set n { receipt with isAcked := true } },
        brokerAfter) := by
  simp [ack?, Receipt.ack, found, unacked, carried, committing, receipts_commit committing]

theorem ack?_eq_none_iff : consumer.ack? broker n = none ↔ consumer.receipts[n]? = none := by
  simp [ack?]

end Consumer

end TopicBus
