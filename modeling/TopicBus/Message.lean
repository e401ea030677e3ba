import TopicBus.Fault
import TopicBus.Payload.Shown

/-!
# Messages and records

A message is a typed payload with a key and headers; a record is what a broker stores of it. A
message made from a record carries a token, by which the position of the record is committed.
-/

namespace TopicBus

open Text (Bytes quoted)

/-- Header values by name, the names in increasing order, so that each of them stands once. -/
@[ext]
structure Headers where
  entries : List (String × String)
  ordered : entries.Pairwise fun first second => first.1 < second.1
  deriving DecidableEq, Repr

namespace Headers

def empty : Headers := ⟨[], .nil⟩

/-- The entries with a value put under a name, in the place that the order of names gives it. -/
def inserted (name value : String) : List (String × String) → List (String × String)
  | [] => [(name, value)]
  | (other, kept) :: rest =>
      if name < other then (name, value) :: (other, kept) :: rest
      else if name = other then (name, value) :: rest
      else (other, kept) :: inserted name value rest

private theorem eq_or_mem_of_mem_inserted {name value : String} {entries : List (String × String)}
    {entry : String × String} (member : entry ∈ inserted name value entries) :
    entry = (name, value) ∨ entry ∈ entries := by
  induction entries with
  | nil => exact .inl (List.mem_singleton.mp member)
  | cons first rest inductionHypothesis =>
      obtain ⟨other, kept⟩ := first
      unfold inserted at member
      split at member
      · exact List.mem_cons.mp member
      · split at member
        · rcases List.mem_cons.mp member with same | inRest
          · exact .inl same
          · exact .inr (List.mem_cons_of_mem _ inRest)
        · rcases List.mem_cons.mp member with rfl | inRest
          · exact .inr List.mem_cons_self
          · exact (inductionHypothesis inRest).imp_right (List.mem_cons_of_mem _)

theorem inserted_ordered {entries : List (String × String)}
    (ordered : entries.Pairwise fun first second => first.1 < second.1) (name value : String) :
    (inserted name value entries).Pairwise fun first second => first.1 < second.1 := by
  induction entries with
  | nil => exact List.pairwise_singleton _ _
  | cons entry rest inductionHypothesis =>
      obtain ⟨other, kept⟩ := entry
      obtain ⟨first, others⟩ := List.pairwise_cons.mp ordered
      unfold inserted
      by_cases before : name < other
      · rw [if_pos before]
        refine List.pairwise_cons.mpr ⟨?_, ordered⟩
        intro later member
        rcases List.mem_cons.mp member with rfl | inRest
        · exact before
        · exact String.lt_trans before (first later inRest)
      · by_cases same : name = other
        · subst same
          rw [if_neg before, if_pos rfl]
          exact List.pairwise_cons.mpr ⟨first, others⟩
        · rw [if_neg before, if_neg same]
          refine List.pairwise_cons.mpr ⟨?_, inductionHypothesis others⟩
          intro later member
          rcases eq_or_mem_of_mem_inserted member with rfl | inRest
          · by_cases after : other < name
            · exact after
            · exact absurd
                (String.le_antisymm (String.not_lt.mp after) (String.not_lt.mp before)) same
          · exact first later inRest

def insert (name value : String) (headers : Headers) : Headers :=
  ⟨inserted name value headers.entries, inserted_ordered headers.ordered name value⟩

/-- The headers of the given pairs; of two pairs with one name the later counts. -/
def ofPairs (pairs : List (String × String)) : Headers :=
  pairs.foldl (fun headers pair => insert pair.1 pair.2 headers) empty

/-- What a function gives for each header. -/
def map {α : Type} (f : String × String → α) (headers : Headers) : List α :=
  headers.entries.map f

def length (headers : Headers) : Nat := headers.entries.length

end Headers

/--
The position of a record. Partitions of 32 and offsets of 64 bits are taken to have no end: that a
number leaves its range is not modelled. An offset that is read off a log is below the size of the
log, and what a commit stores for it is at most that size. Only a position that somebody has made
up could leave the range.
-/
structure Token where
  topic : String
  partition : Int
  offset : Int
  deriving DecidableEq, Repr

/-- A typed message. Only one that was made from a record has a token. -/
structure Message where
  key : Option String
  value : Payload
  headers : Headers
  token : Option Token
  deriving DecidableEq, Repr

/-- A record as it was fetched. -/
structure Record where
  token : Token
  key : Option Bytes
  payload : Option Bytes
  headers : List (String × Bytes)
  deriving DecidableEq, Repr

/-- A record on its way to a broker. -/
structure Outbound where
  topic : String
  key : Option String
  payload : Bytes
  headers : Headers
  deriving DecidableEq, Repr

namespace Message

/-- A message with neither key nor headers. -/
def ofPayload (value : Payload) : Message :=
  ⟨none, value, .empty, none⟩

def withKey (message : Message) (key : String) : Message :=
  { message with key := some key }

def withHeader (message : Message) (name value : String) : Message :=
  { message with headers := message.headers.insert name value }

/-- The message made from a record and its decoded payload. Octets that are no UTF-8 are
replaced. -/
def ofRecord (record : Record) (value : Payload) : Message where
  key := record.key.map Text.Utf8.decodeLenient
  value := value
  headers :=
    Headers.ofPairs (record.headers.map fun header => (header.1, Text.Utf8.decodeLenient header.2))
  token := some record.token

end Message

def Token.shown (token : Token) : String :=
  Text.Shown.record "CommitToken"
    [("topic", quoted token.topic), ("partition", Decimal.integer token.partition),
      ("offset", Decimal.integer token.offset)]

def Message.shown (message : Message) : String :=
  Text.Shown.record "Message"
    [("key", Text.Shown.optional quoted message.key), ("value", message.value.shown),
      ("headers",
        Text.Shown.mapping
          (message.headers.map fun header => (quoted header.1, quoted header.2))),
      ("commit_token", Text.Shown.optional Token.shown message.token)]

end TopicBus
