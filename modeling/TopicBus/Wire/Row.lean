import TopicBus.Wire.Leaf

/-!
# Records of plain values

The written form of a record is a mapping with the fields in their order. A reader takes the
fields in any order and passes over unknown ones, but every field has to stand exactly once; it
also takes a list of exactly the values in the order of the fields.
-/

namespace TopicBus

open Text (Bytes)

/-- A field of a record. -/
structure Field where
  name : String
  leaf : Leaf
  deriving DecidableEq, Repr

/-- The values of the fields of a record, in order. -/
abbrev Row : List Field → Type
  | [] => Unit
  | field :: fields => field.leaf.Val × Row fields

/-- The values of a record that is being read; fields not yet met have none. -/
abbrev Draft : List Field → Type
  | [] => Unit
  | field :: fields => Option field.leaf.Val × Draft fields

namespace Row

def empty : (fields : List Field) → Row fields
  | [] => ()
  | field :: fields => (field.leaf.empty, empty fields)

/-- The written entries, in the order of the fields. -/
def writeEntries : (fields : List Field) → Row fields → Except Flaw (List Bytes)
  | [], () => .ok []
  | field :: fields, (value, row) => do
      let written ← field.leaf.write value
      let rest ← writeEntries fields row
      return (Leaf.writeText field.name ++ Scan.octet ':' :: written) :: rest

def write (fields : List Field) (row : Row fields) : Except Flaw Bytes := do
  let entries ← writeEntries fields row
  return Scan.octet '\x7b' :: Leaf.separated entries ++ [Scan.octet '\x7d']

/-- Reads the values from a list that has begun; the flag tells whether none has been read yet. -/
def readItems : (fields : List Field) → Bool → Reader (Row fields)
  | [], _, bytes => .ok ((), bytes)
  | field :: fields, first, bytes =>
      match Scan.skipSpace bytes with
      | [] => .error .truncated
      | b :: rest =>
          if b = Scan.octet ']' then .error .mismatched
          else if first then follow field fields (b :: rest)
          else if b = Scan.octet ',' then
            match Scan.skipSpace rest with
            | [] => .error .truncated
            | c :: tail =>
                if c = Scan.octet ']' then .error .malformed
                else follow field fields (c :: tail)
          else .error .malformed
where
  /-- Reads one value and the values after it. -/
  follow (field : Field) (fields : List Field) (bytes : Bytes) :
      Except Flaw ((field.leaf.Val × Row fields) × Bytes) :=
    match field.leaf.read bytes with
    | .error flaw => .error flaw
    | .ok (value, rest) =>
        match readItems fields false rest with
        | .error flaw => .error flaw
        | .ok (row, rest) => .ok ((value, row), rest)

end Row

namespace Draft

/-- The draft in which no field has been met. -/
def empty : (fields : List Field) → Draft fields
  | [] => ()
  | _ :: fields => (none, empty fields)

/-- The values, if every field has been met. -/
def complete? : (fields : List Field) → Draft fields → Option (Row fields)
  | [], () => some ()
  | _ :: fields, (value, draft) =>
      match value, complete? fields draft with
      | some value, some row => some (value, row)
      | _, _ => none

def colon (bytes : Bytes) : Except Flaw Bytes :=
  match Scan.skipSpace bytes with
  | [] => .error .truncated
  | b :: rest => if b = Scan.octet ':' then .ok rest else .error .malformed

/-- Reads the value of the named field, whose key has just been read. A field that has been met
before is an error before its value is looked at; nothing is done if there is no such field. -/
def fill (name : String) :
    (fields : List Field) → Draft fields → Bytes → Option (Except Flaw (Draft fields × Bytes))
  | [], (), _ => none
  | field :: fields, (slot, draft), bytes =>
      if field.name = name then
        some <|
          match slot, colon bytes with
          | some _, _ => .error .mismatched
          | none, .error flaw => .error flaw
          | none, .ok rest =>
              match field.leaf.read rest with
              | .error flaw => .error flaw
              | .ok (value, rest) => .ok ((some value, draft), rest)
      else
        (fill name fields draft bytes).map fun
          | .error flaw => .error flaw
          | .ok (draft, rest) => .ok ((slot, draft), rest)

/-- Reads one entry, from its key on. -/
def entry (fields : List Field) (draft : Draft fields) (bytes : Bytes) :
    Except Flaw (Draft fields × Bytes) :=
  match Scan.string bytes with
  | .error flaw => .error flaw
  | .ok (name, rest) =>
      match fill name fields draft rest with
      | some result => result
      | none =>
          -- There is no such field, so the value is passed over.
          match colon rest with
          | .error flaw => .error flaw
          | .ok rest => (Scan.skipValue rest).map fun rest => (draft, rest)

/-- Reads the entries of a mapping that has begun, up to its closing bracket. The first argument
bounds the number of entries; the flag tells whether none has been read yet. -/
def readEntries (fields : List Field) : Nat → Bool → Draft fields → Reader (Draft fields)
  | 0, _, _, _ => .error .truncated
  | bound + 1, first, draft, bytes =>
      match Scan.skipSpace bytes with
      | [] => .error .truncated
      | b :: rest =>
          if b = Scan.octet '\x7d' then .ok (draft, rest)
          else if first then
            if b = Scan.octet '"' then next bound (entry fields draft rest) else .error .malformed
          else if b = Scan.octet ',' then
            -- No mapping ends with a comma.
            match Scan.skipSpace rest with
            | [] => .error .truncated
            | c :: tail =>
                if c = Scan.octet '"' then next bound (entry fields draft tail)
                else .error .malformed
          else .error .malformed
where
  /-- Goes on after an entry. -/
  next (bound : Nat) : Except Flaw (Draft fields × Bytes) → Except Flaw (Draft fields × Bytes)
    | .error flaw => .error flaw
    | .ok (draft, rest) => readEntries fields bound false draft rest

end Draft

namespace Row

def read (fields : List Field) : Reader (Row fields) := fun bytes =>
  match Scan.skipSpace bytes with
  | [] => .error .truncated
  | b :: rest =>
      if b = Scan.octet '[' then
        match readItems fields true rest with
        | .error flaw => .error flaw
        | .ok (row, rest) =>
            match Scan.skipSpace rest with
            | [] => .error .truncated
            | c :: rest => if c = Scan.octet ']' then .ok (row, rest) else .error .malformed
      else if b = Scan.octet '\x7b' then
        match Draft.readEntries fields (rest.length + 1) true (Draft.empty fields) rest with
        | .error flaw => .error flaw
        | .ok (draft, rest) =>
            match Draft.complete? fields draft with
            | some row => .ok (row, rest)
            | none => .error .mismatched
      else .error (Leaf.mismatch b rest)

end Row

end TopicBus
