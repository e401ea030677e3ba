import TopicBus.Proofs.Wire.Codec
import TopicBus.Proofs.Wire.Doubles

/-!
# Orders, encoded and decoded

Every order is encoded, whatever its amount is. What the octets are decoded to depends on the
amount alone: with a finite one it is the order, whose amount may have changed in its last
places; any other amount is written as `null`, which is no amount, and the record fails with it.
-/

namespace TopicBus

open Text (Bytes)
open Scan (octet)
open Decimal (Binary64)

namespace Payload

/-- The entries of an order. -/
private def orderEntries (order : OrderPlaced) : List Bytes :=
  [Leaf.writeText "order_id" ++ octet ':' :: Leaf.writeText order.orderId,
    Leaf.writeText "user_id" ++ octet ':' :: Leaf.writeText order.userId,
    Leaf.writeText "amount" ++ octet ':' :: Leaf.ascii (Number.write (.real order.amount)).toList,
    Leaf.writeText "items" ++ octet ':' ::
      (octet '[' :: Leaf.separated (order.items.map Leaf.writeText) ++ [octet ']'])]

theorem encode_orderPlaced (order : OrderPlaced) :
    (orderPlaced order).encode =
      .ok (octet '\x7b' :: Leaf.separated (orderEntries order) ++ [octet '\x7d']) :=
  rfl

/-- Only the amount decides on what an encoded order is decoded to. -/
theorem decode_orderPlaced (order : OrderPlaced) {outcome : Except Flaw Binary64}
    (yields : Leaf.real.Yields (Leaf.ascii (Number.write (.real order.amount)).toList) outcome)
    {bytes : Bytes} (encoded : (orderPlaced order).encode = .ok bytes) :
    decode .orderPlaced bytes =
      outcome.map fun amount => .orderPlaced { order with amount := amount } := by
  have spelled : Outcomes.Spelled
      [⟨"order_id", .text⟩, ⟨"user_id", .text⟩, ⟨"amount", .real⟩, ⟨"items", .texts⟩]
      (.ok order.orderId, .ok order.userId, outcome, .ok order.items, ()) (orderEntries order) := by
    refine ⟨_, _, rfl, ?_, _, _, rfl, ?_, _, _, rfl, yields, _, _, rfl, ?_, rfl⟩
    · exact Leaf.yields_write (by decide) rfl
    · exact Leaf.yields_write (by decide) rfl
    · exact Leaf.yields_write (by decide) rfl
  have read := Row.read_spelled (by decide) spelled []
  rw [List.append_nil] at read
  rw [encode_orderPlaced] at encoded
  cases encoded
  have readShape : Kind.orderPlaced.shape.read
      (octet '\x7b' :: Leaf.separated (orderEntries order) ++ [octet '\x7d']) = _ := read
  have finished : Scan.finish [] = .ok () := rfl
  cases outcome with
  | ok amount =>
      simp only [decode, readShape, Outcomes.collect, Except.map, finished]
      rfl
  | error flaw => simp only [decode, readShape, Outcomes.collect, Except.map]

variable {order : OrderPlaced} {bytes : Bytes}

theorem decode_of_isFinite (finite : order.amount.IsFinite)
    (encoded : (orderPlaced order).encode = .ok bytes) :
    ∃ amount, decode .orderPlaced bytes = .ok (.orderPlaced { order with amount := amount }) := by
  obtain ⟨amount, read⟩ := Leaf.read_real_of_isFinite finite
  have yields : Leaf.real.Yields _ (.ok amount) := read
  exact ⟨amount, decode_orderPlaced order yields encoded⟩

theorem decode_of_not_isFinite (strange : ¬ order.amount.IsFinite)
    (encoded : (orderPlaced order).encode = .ok bytes) :
    decode .orderPlaced bytes = .error .mismatched := by
  have yields : Leaf.real.Yields _ (.error .mismatched) :=
    fun rest _ => Leaf.read_real_of_not_isFinite strange rest
  exact decode_orderPlaced order yields encoded

theorem decodeInto_of_isFinite {initial : Payload} (sameKind : initial.kind = .orderPlaced)
    (finite : order.amount.IsFinite) (encoded : (orderPlaced order).encode = .ok bytes) :
    ∃ amount, initial.decodeInto bytes =
      (.ok (), .orderPlaced { order with amount := amount }) := by
  obtain ⟨amount, decoded⟩ := decode_of_isFinite finite encoded
  rw [← sameKind] at decoded
  exact ⟨amount, decodeInto_eq_ok_iff.mpr decoded⟩

theorem decodeInto_of_not_isFinite {initial : Payload} (sameKind : initial.kind = .orderPlaced)
    (strange : ¬order.amount.IsFinite) (encoded : (orderPlaced order).encode = .ok bytes) :
    initial.decodeInto bytes = (.error .mismatched, initial) := by
  rw [decodeInto, sameKind, decode_of_not_isFinite strange encoded]

end Payload

end TopicBus
