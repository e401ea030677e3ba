import TopicBus.Wire.Row

/-!
# Payloads

The values that messages carry. Every payload is of one kind, and every kind has an empty
payload, into which a record is decoded.
-/

namespace TopicBus

open Decimal (Binary64)

/-- A user has signed up. -/
structure UserCreated where
  userId : String
  email : String
  deriving DecidableEq, Repr

/-- A file has been stored. -/
structure FileUpload where
  path : String
  size : UInt64
  deriving DecidableEq, Repr

/-- Text has been recognized. -/
structure OcrResult where
  text : String
  deriving DecidableEq, Repr

/-- A numbered sign of life. -/
structure Ping where
  seq : UInt32
  deriving DecidableEq, Repr

/-- An order has been placed. -/
structure OrderPlaced where
  orderId : String
  userId : String
  amount : Binary64
  items : List String
  deriving DecidableEq, Repr

/-- Numbers at pairs of octets, under a label. -/
structure Scores where
  label : String
  byPair : PairTable
  deriving DecidableEq, Repr

namespace Payload

/-- The kinds of payloads. -/
inductive Kind
  | userCreated
  | fileUpload
  | ocrResult
  | ping
  | orderPlaced
  | scores
  | word
  | text
  | unit
  | optionalInteger
  | texts
  deriving DecidableEq, Repr

def Kind.all : List Kind :=
  [.userCreated, .fileUpload, .ocrResult, .ping, .orderPlaced, .scores, .word, .text, .unit,
    .optionalInteger, .texts]

end Payload

/-- A payload of any kind. -/
inductive Payload
  | userCreated (value : UserCreated)
  | fileUpload (value : FileUpload)
  | ocrResult (value : OcrResult)
  | ping (value : Ping)
  | orderPlaced (value : OrderPlaced)
  | scores (value : Scores)
  | word (value : UInt32)
  | text (value : String)
  | unit
  | optionalInteger (value : Option Int64)
  | texts (value : List String)
  deriving DecidableEq, Repr

namespace Payload

def kind : Payload → Kind
  | .userCreated _ => .userCreated
  | .fileUpload _ => .fileUpload
  | .ocrResult _ => .ocrResult
  | .ping _ => .ping
  | .orderPlaced _ => .orderPlaced
  | .scores _ => .scores
  | .word _ => .word
  | .text _ => .text
  | .unit => .unit
  | .optionalInteger _ => .optionalInteger
  | .texts _ => .texts

/-- What a kind looks like on the wire: a plain value or a record. -/
inductive Shape
  | plain (leaf : Leaf)
  | record (fields : List Field)
  deriving DecidableEq, Repr

/-- The values of a shape. -/
abbrev Shape.Val : Shape → Type
  | .plain leaf => leaf.Val
  | .record fields => Row fields

def Kind.shape : Kind → Shape
  | .userCreated => .record [⟨"user_id", .text⟩, ⟨"email", .text⟩]
  | .fileUpload => .record [⟨"path", .text⟩, ⟨"size", .word64⟩]
  | .ocrResult => .record [⟨"text", .text⟩]
  | .ping => .record [⟨"seq", .word32⟩]
  | .orderPlaced =>
      .record [⟨"order_id", .text⟩, ⟨"user_id", .text⟩, ⟨"amount", .real⟩, ⟨"items", .texts⟩]
  | .scores => .record [⟨"label", .text⟩, ⟨"by_pair", .pairs⟩]
  | .word => .plain .word32
  | .text => .plain .text
  | .unit => .plain .unit
  | .optionalInteger => .plain .optionalInteger
  | .texts => .plain .texts

/-- The payload of a kind with the given value of its shape. -/
def ofVal : (kind : Kind) → kind.shape.Val → Payload
  | .userCreated, (userId, email, ()) => .userCreated ⟨userId, email⟩
  | .fileUpload, (path, size, ()) => .fileUpload ⟨path, size⟩
  | .ocrResult, (recognized, ()) => .ocrResult ⟨recognized⟩
  | .ping, (seq, ()) => .ping ⟨seq⟩
  | .orderPlaced, (orderId, userId, amount, items, ()) =>
      .orderPlaced ⟨orderId, userId, amount, items⟩
  | .scores, (label, byPair, ()) => .scores ⟨label, byPair⟩
  | .word, value => .word value
  | .text, value => .text value
  | .unit, () => .unit
  | .optionalInteger, value => .optionalInteger value
  | .texts, value => .texts value

/-- The value of a payload in the shape of its kind. -/
def val : (payload : Payload) → payload.kind.shape.Val
  | .userCreated value => (value.userId, value.email, ())
  | .fileUpload value => (value.path, value.size, ())
  | .ocrResult value => (value.text, ())
  | .ping value => (value.seq, ())
  | .orderPlaced value => (value.orderId, value.userId, value.amount, value.items, ())
  | .scores value => (value.label, value.byPair, ())
  | .word value => value
  | .text value => value
  | .unit => ()
  | .optionalInteger value => value
  | .texts value => value

/-- The kind of a payload is the one it was made for. -/
theorem kind_ofVal (k : Kind) (value : k.shape.Val) : (ofVal k value).kind = k := by
  cases k <;> rfl

/-- A payload is made of its value. -/
theorem ofVal_val (payload : Payload) : ofVal payload.kind payload.val = payload := by
  cases payload <;> rfl

def Kind.empty (k : Kind) : Payload :=
  ofVal k <|
    match k.shape with
    | .plain leaf => leaf.empty
    | .record fields => Row.empty fields

end Payload

end TopicBus
