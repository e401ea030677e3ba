import TopicBus.Json.Scan

/-!
# Reading a loosely typed value

The reader of a whole JSON document. A mapping read here has its keys in order, and of a
repeated key the last value.
-/

namespace TopicBus.Json

open Text (Bytes)
open Scan (octet skipSpace)

/-- What a reader of values takes next: a value, the items of a list that has begun, or the
entries of a mapping that has begun. -/
inductive Goal
  | value
  | items (seen : List Json)
  | entries (seen : List (String × Json))

/-- Takes a key and the colon after it. -/
def key (bytes : Bytes) : Except Flaw (String × Bytes) :=
  match skipSpace bytes with
  | [] => .error .truncated
  | b :: rest =>
      if b = octet '"' then do
        let (name, rest) ← Scan.string rest
        match skipSpace rest with
        | [] => .error .truncated
        | c :: rest => if c = octet ':' then .ok (name, rest) else .error .malformed
      else .error .malformed

/-- Takes what the goal asks for. The first argument bounds the number of values and brackets. -/
def take : Nat → Goal → Reader Json
  | 0, _, _ => .error .truncated
  | bound + 1, .value, bytes =>
      match skipSpace bytes with
      | [] => .error .truncated
      | b :: rest =>
          if b = octet 'n' then (Scan.word (Scan.letters "ull") rest).map fun rest => (.null, rest)
          else if b = octet 't' then
            (Scan.word (Scan.letters "rue") rest).map fun rest => (.bool true, rest)
          else if b = octet 'f' then
            (Scan.word (Scan.letters "alse") rest).map fun rest => (.bool false, rest)
          else if Scan.startsNumber b then
            (Scan.number (b :: rest)).map fun (n, rest) => (.number n, rest)
          else if b = octet '"' then
            (Scan.string rest).map fun (s, rest) => (.text s, rest)
          else if b = octet '[' then
            match skipSpace rest with
            | [] => .error .truncated
            | c :: tail =>
                if c = octet ']' then .ok (.list [], tail)
                else take bound (.items []) (c :: tail)
          else if b = octet '\x7b' then
            match skipSpace rest with
            | [] => .error .truncated
            | c :: tail =>
                if c = octet '\x7d' then .ok (.mapping [], tail)
                else take bound (.entries []) (c :: tail)
          else .error .malformed
  | bound + 1, .items seen, bytes =>
      match take bound .value bytes with
      | .error flaw => .error flaw
      | .ok (item, rest) =>
          match skipSpace rest with
          | [] => .error .truncated
          | b :: rest =>
              if b = octet ',' then take bound (.items (item :: seen)) rest
              else if b = octet ']' then .ok (.list (item :: seen).reverse, rest)
              else .error .malformed
  | bound + 1, .entries seen, bytes =>
      match key bytes with
      | .error flaw => .error flaw
      | .ok (name, rest) =>
          match take bound .value rest with
          | .error flaw => .error flaw
          | .ok (value, rest) =>
              match skipSpace rest with
              | [] => .error .truncated
              | b :: rest =>
                  if b = octet ',' then take bound (.entries ((name, value) :: seen)) rest
                  else if b = octet '\x7d' then
                    .ok (.mapping (Mapping.ofPairs ((name, value) :: seen).reverse), rest)
                  else .error .malformed

def read (bytes : Bytes) : Except Flaw Json := do
  let (value, rest) ← take (2 * bytes.length + 2) .value bytes
  Scan.finish rest
  return value

end TopicBus.Json
