import TopicBus.Payload.Basic

/-!
# The wire form of payloads

A payload is written as compact JSON and read from any JSON document of the shape of its kind.
Decoding goes into a payload that is already there: a failure leaves it as it was, and a success
replaces it whole.
-/

namespace TopicBus.Payload

open Text (Bytes)

def Shape.write : (shape : Shape) → shape.Val → Except Flaw Bytes
  | .plain leaf => leaf.write
  | .record fields => Row.write fields

def Shape.read : (shape : Shape) → Reader shape.Val
  | .plain leaf => leaf.read
  | .record fields => Row.read fields

def encode (payload : Payload) : Except Flaw Bytes :=
  payload.kind.shape.write payload.val

/-- The payload of a kind that a document holds. -/
def decode (kind : Kind) (bytes : Bytes) : Except Flaw Payload :=
  match kind.shape.read bytes with
  | .error flaw => .error flaw
  | .ok (value, rest) =>
      match Scan.finish rest with
      | .error flaw => .error flaw
      | .ok () => .ok (ofVal kind value)

/-- Decodes into a payload: what went wrong, if anything, and the payload afterwards. -/
def decodeInto (payload : Payload) (bytes : Bytes) : Except Flaw Unit × Payload :=
  match decode payload.kind bytes with
  | .error flaw => (.error flaw, payload)
  | .ok decoded => (.ok (), decoded)

end TopicBus.Payload
