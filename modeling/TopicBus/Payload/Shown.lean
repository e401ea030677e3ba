import TopicBus.Payload.Basic
import TopicBus.Text.Quoted

/-!
# Payloads as shown to a reader
-/

namespace TopicBus.Payload

open Text (quoted)
open Text.Shown (record optional list mapping layout)

/-- A payload with the names of its type and its fields. -/
def shown : Payload → String
  | .userCreated value =>
      record "UserCreated" [("user_id", quoted value.userId), ("email", quoted value.email)]
  | .fileUpload value =>
      record "FileUpload"
        [("path", quoted value.path), ("size", Decimal.natural value.size.toNat)]
  | .ocrResult value => record "OcrResult" [("text", quoted value.text)]
  | .ping value => record "Ping" [("seq", Decimal.natural value.seq.toNat)]
  | .orderPlaced value =>
      record "OrderPlaced"
        [("order_id", quoted value.orderId), ("user_id", quoted value.userId),
          ("amount", layout.write value.amount), ("items", list (value.items.map quoted))]
  | .scores value =>
      record "Scores"
        [("label", quoted value.label), ("by_pair", mapping (value.byPair.map scoreEntry))]
  | .word value => Decimal.natural value.toNat
  | .text value => quoted value
  | .unit => "()"
  | .optionalInteger value => optional (fun n => Decimal.integer n.toInt) value
  | .texts value => list (value.map quoted)
where
  /-- The pair of octets and the number at it. -/
  scoreEntry (entry : (UInt8 × UInt8) × UInt32) : String × String :=
    ("(" ++ Decimal.natural entry.1.1.toNat ++ ", " ++ Decimal.natural entry.1.2.toNat ++ ")",
      Decimal.natural entry.2.toNat)

end TopicBus.Payload
