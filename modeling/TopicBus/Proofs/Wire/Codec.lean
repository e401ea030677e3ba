import TopicBus.Proofs.Wire.Compact

/-!
# The codec and its inverse

A reader accepts far more documents than the writer makes: spaces and escapes, fields in any
order with unknown ones between them, lists in the place of records. Whatever it accepts, each
value that it takes stands for a JSON value, so the payload can be written again. With the way
back from written octets, encoding and decoding undo each other.
-/

namespace TopicBus

open Text (Bytes)
open Scan (octet)

variable {bytes rest : Bytes}

/-- A table is only read without entries. -/
private theorem Leaf.eq_nil_of_read_pairs {table : PairTable}
    (read : Leaf.pairs.read bytes = .ok (table, rest)) : table = [] := by
  simp only [Leaf.read] at read
  split at read
  · cases read
  · split at read
    · split at read
      · cases read
      · split at read
        · cases read
          rfl
        · split at read
          · split at read
            · cases read
            · cases read
          · cases read
    · cases read

/-- A value that is read stands for a JSON value. -/
theorem Leaf.isSome_json?_of_read {leaf : Leaf} {value : leaf.Val}
    (read : leaf.read bytes = .ok (value, rest)) : (leaf.json? value).isSome := by
  cases leaf with
  | pairs =>
      obtain rfl := Leaf.eq_nil_of_read_pairs read
      rfl
  | optionalInteger => exact Leaf.isSome_json?_optionalInteger value
  | text | word32 | word64 | real | unit | texts => rfl

namespace Row

variable {fields : List Field} {row : Row fields}

private theorem isSome_jsonEntries?_cons {field : Field} {value : field.leaf.Val}
    (first : (field.leaf.json? value).isSome) (others : (jsonEntries? fields row).isSome) :
    (jsonEntries? (field :: fields) (value, row)).isSome := by
  obtain ⟨json, there⟩ := Option.isSome_iff_exists.mp first
  obtain ⟨entries, more⟩ := Option.isSome_iff_exists.mp others
  simp [jsonEntries?, there, more]

private theorem readItems_cons {field : Field} {value : field.leaf.Val} {first : Bool}
    (read : readItems (field :: fields) first bytes = .ok ((value, row), rest)) :
    ∃ before between, field.leaf.read before = .ok (value, between) ∧
      readItems fields false between = .ok (row, rest) := by
  have taken : ∃ before, readItems.follow field fields before = .ok ((value, row), rest) := by
    unfold readItems at read
    split at read
    · cases read
    · split at read
      · cases read
      · split at read
        · exact ⟨_, read⟩
        · split at read
          · split at read
            · cases read
            · split at read
              · cases read
              · exact ⟨_, read⟩
          · cases read
  obtain ⟨before, follow⟩ := taken
  unfold readItems.follow at follow
  cases head : field.leaf.read before with
  | error flaw =>
      rw [head] at follow
      cases follow
  | ok taken =>
      obtain ⟨value, between⟩ := taken
      cases tail : readItems fields false between with
      | error flaw =>
          simp only [head, tail] at follow
          cases follow
      | ok others =>
          simp only [head, tail] at follow
          cases follow
          exact ⟨before, between, head, tail⟩

/-- The values of a list stand for JSON values. -/
theorem isSome_jsonEntries?_of_readItems {first : Bool}
    (read : readItems fields first bytes = .ok (row, rest)) : (jsonEntries? fields row).isSome := by
  induction fields generalizing first bytes with
  | nil => rfl
  | cons field fields inductionHypothesis =>
      obtain ⟨value, row⟩ := row
      obtain ⟨before, between, head, tail⟩ := readItems_cons read
      exact isSome_jsonEntries?_cons (Leaf.isSome_json?_of_read head) (inductionHypothesis tail)

end Row

namespace Draft

/-- Every value that has been met stands for a JSON value. -/
def IsWritable : (fields : List Field) → Draft fields → Prop
  | [], () => True
  | field :: fields, (slot, draft) =>
      (∀ value ∈ slot, (field.leaf.json? value).isSome) ∧ IsWritable fields draft

variable {fields : List Field} {draft : Draft fields}

theorem isWritable_empty (fields : List Field) : IsWritable fields (empty fields) := by
  induction fields with
  | nil => trivial
  | cons field fields inductionHypothesis =>
      refine ⟨fun value met => ?_, inductionHypothesis⟩
      cases met

/-- Filling a slot keeps the others and puts a value there that was read. -/
private theorem isWritable_fill {name : String} {filled : Draft fields} {after : Bytes}
    (writable : IsWritable fields draft)
    (done : fill name fields draft bytes = some (.ok (filled, after))) :
    IsWritable fields filled := by
  induction fields with
  | nil => cases done
  | cons field fields inductionHypothesis =>
      obtain ⟨slot, draft⟩ := draft
      unfold fill at done
      by_cases named : field.name = name
      · rw [if_pos named] at done
        split at done
        · cases done
        · cases done
        · split at done
          · cases done
          · rename_i value rest read
            cases done
            refine ⟨fun value met => ?_, writable.2⟩
            cases met
            exact Leaf.isSome_json?_of_read read
      · rw [if_neg named] at done
        cases others : fill name fields draft bytes with
        | none =>
            rw [others] at done
            cases done
        | some result =>
            cases result with
            | error flaw =>
                rw [others] at done
                cases done
            | ok more =>
                rw [others] at done
                cases done
                exact ⟨writable.1, inductionHypothesis writable.2 others⟩

private theorem isWritable_entry {met : Draft fields} {after : Bytes}
    (writable : IsWritable fields draft) (done : entry fields draft bytes = .ok (met, after)) :
    IsWritable fields met := by
  unfold entry at done
  split at done
  · cases done
  · split at done
    · rename_i result filled
      subst done
      exact isWritable_fill writable filled
    · split at done
      · cases done
      · rename_i rest separated
        -- The value of an unknown field is passed over, and the draft stays as it is.
        cases skipped : Scan.skipValue rest with
        | error flaw =>
            rw [skipped] at done
            cases done
        | ok left =>
            rw [skipped] at done
            cases done
            exact writable

/-- However many entries are read, only values that were read are in the draft. -/
private theorem isWritable_readEntries {bound : Nat} {first : Bool} {met : Draft fields}
    {after : Bytes} (writable : IsWritable fields draft)
    (done : readEntries fields bound first draft bytes = .ok (met, after)) :
    IsWritable fields met := by
  induction bound generalizing first draft bytes with
  | zero =>
      unfold readEntries at done
      cases done
  | succ bound inductionHypothesis =>
      have goesOn {bytes : Bytes}
          (done : readEntries.next fields bound (entry fields draft bytes) = .ok (met, after)) :
          IsWritable fields met := by
        unfold readEntries.next at done
        split at done
        · cases done
        · rename_i between left read
          exact inductionHypothesis (isWritable_entry writable read) done
      unfold readEntries at done
      split at done
      · cases done
      · split at done
        · cases done
          exact writable
        · split at done
          · split at done
            · exact goesOn done
            · cases done
          · split at done
            · split at done
              · cases done
              · split at done
                · exact goesOn done
                · cases done
            · cases done

/-- A draft in which every field has been met is a record of JSON values. -/
private theorem IsWritable.isSome_jsonEntries? {row : Row fields}
    (writable : IsWritable fields draft) (complete : complete? fields draft = some row) :
    (Row.jsonEntries? fields row).isSome := by
  induction fields with
  | nil => rfl
  | cons field fields inductionHypothesis =>
      obtain ⟨slot, draft⟩ := draft
      obtain ⟨met, others⟩ := writable
      unfold complete? at complete
      split at complete
      · rename_i value row more
        cases complete
        exact Row.isSome_jsonEntries?_cons (met value rfl) (inductionHypothesis others more)
      · cases complete

end Draft

/-- A record that is read stands for a JSON value. -/
theorem Row.isSome_jsonEntries?_of_read {fields : List Field} {row : Row fields}
    (read : Row.read fields bytes = .ok (row, rest)) : (jsonEntries? fields row).isSome := by
  unfold Row.read at read
  split at read
  · cases read
  · split at read
    · split at read
      · cases read
      · rename_i items left taken
        split at read
        · cases read
        · split at read
          · cases read
            exact Row.isSome_jsonEntries?_of_readItems taken
          · cases read
    · split at read
      · split at read
        · cases read
        · rename_i draft left taken
          split at read
          · rename_i complete
            cases read
            have writable := Draft.isWritable_readEntries (Draft.isWritable_empty fields) taken
            exact writable.isSome_jsonEntries? complete
          · cases read
      · cases read

namespace Payload

theorem Shape.isSome_json?_of_read {shape : Shape} {value : shape.Val}
    (read : shape.read bytes = .ok (value, rest)) : (shape.json? value).isSome := by
  cases shape with
  | plain leaf => exact Leaf.isSome_json?_of_read read
  | record fields =>
      have entries := Row.isSome_jsonEntries?_of_read read
      rw [Shape.json?, Option.isSome_map]
      exact entries

theorem decode_eq_ok {kind : Kind} {payload : Payload} (decoded : decode kind bytes = .ok payload) :
    ∃ value rest, kind.shape.read bytes = .ok (value, rest) ∧ payload = ofVal kind value := by
  unfold decode at decoded
  split at decoded
  · cases decoded
  · rename_i value rest read
    split at decoded
    · cases decoded
    · cases decoded
      exact ⟨value, rest, read, rfl⟩

theorem json?_ofVal (kind : Kind) (value : kind.shape.Val) :
    (ofVal kind value).json? = kind.shape.json? value := by
  cases kind <;> rfl

/-- A payload that is decoded is of the wanted kind and stands for a JSON value. -/
theorem kind_and_json?_of_decode {kind : Kind} {payload : Payload}
    (decoded : decode kind bytes = .ok payload) : payload.kind = kind ∧ payload.json?.isSome := by
  obtain ⟨value, rest, read, rfl⟩ := decode_eq_ok decoded
  have isJson := Shape.isSome_json?_of_read read
  rw [← json?_ofVal] at isJson
  exact ⟨kind_ofVal kind value, isJson⟩

theorem decodeInto_eq_ok_iff {initial payload : Payload} :
    initial.decodeInto bytes = (.ok (), payload) ↔ decode initial.kind bytes = .ok payload := by
  unfold decodeInto
  cases decode initial.kind bytes with
  | error flaw => simp
  | ok decoded => simp

theorem encode_eq_ok_iff {payload : Payload} (noOrder : payload.kind ≠ .orderPlaced) :
    payload.encode = .ok bytes ↔
      ∃ json, payload.json? = some json ∧ bytes = Text.Utf8.encode json.write := by
  rw [encode_eq noOrder]
  cases payload.json? with
  | none => simp
  | some json => simp [eq_comm]

theorem encode_eq_error_iff {payload : Payload} (noOrder : payload.kind ≠ .orderPlaced) :
    (∃ flaw, payload.encode = .error flaw) ↔ payload.json? = none := by
  rw [encode_eq noOrder]
  cases payload.json? with
  | none => simp
  | some json => simp

/-- Encoding and decoding undo each other, for every payload without doubles. Octets that a
payload is encoded as are compact JSON and are decoded as that payload, into whatever stood
there; only numbers at pairs of octets are not encoded, and only if there are any. Conversely a
payload that is decoded, from any octets, is encoded as octets from which it is decoded again.
-/
theorem encode_decodeInto_inverse {initial : Payload} (noOrder : initial.kind ≠ .orderPlaced) :
    (∀ payload : Payload, payload.kind = initial.kind →
      (∀ bytes, payload.encode = .ok bytes →
        (∃ json, payload.json? = some json ∧ bytes = Text.Utf8.encode json.write) ∧
          initial.decodeInto bytes = (.ok (), payload)) ∧
      ((∃ flaw, payload.encode = .error flaw) ↔
        ∃ scores, payload = .scores scores ∧ scores.byPair ≠ [])) ∧
    ∀ bytes payload, initial.decodeInto bytes = (.ok (), payload) →
      payload.kind = initial.kind ∧ (∀ scores, payload = .scores scores → scores.byPair = []) ∧
        ∃ written, payload.encode = .ok written ∧
          ∀ other : Payload, other.kind = initial.kind →
            other.decodeInto written = (.ok (), payload) := by
  have back {payload other : Payload} (same : payload.kind = initial.kind)
      (alike : other.kind = initial.kind) {bytes : Bytes} (encoded : payload.encode = .ok bytes) :
      other.decodeInto bytes = (.ok (), payload) := by
    rw [decodeInto_eq_ok_iff, alike, ← same]
    exact decode_encode (same ▸ noOrder) encoded
  constructor
  · intro payload same
    have noOrder : payload.kind ≠ .orderPlaced := same ▸ noOrder
    refine ⟨fun bytes encoded => ⟨(encode_eq_ok_iff noOrder).mp encoded, back same rfl encoded⟩, ?_⟩
    rw [encode_eq_error_iff noOrder, json?_eq_none_iff]
  · intro bytes payload decoded
    obtain ⟨same, isJson⟩ := kind_and_json?_of_decode (decodeInto_eq_ok_iff.mp decoded)
    obtain ⟨json, value⟩ := Option.isSome_iff_exists.mp isJson
    have encoded := (encode_eq_ok_iff (same ▸ noOrder)).mpr ⟨json, value, rfl⟩
    refine ⟨same, fun scores shape => ?_, _, encoded, fun other alike => back same alike encoded⟩
    by_cases entries : scores.byPair = []
    · exact entries
    · have noJson := (json?_eq_none_iff payload).mpr ⟨scores, shape, entries⟩
      rw [noJson] at value
      cases value

/-- The least integer, read between spaces, is written again without them. -/
theorem least_integer_written_again :
    let initial : Payload := .optionalInteger (some 7)
    let payload : Payload := .optionalInteger (some (-9223372036854775808))
    let document := Leaf.ascii " -9223372036854775808\n".toList
    let written := Leaf.ascii "-9223372036854775808".toList
    initial.kind ≠ .orderPlaced ∧ initial.decodeInto document = (.ok (), payload) ∧
      payload.encode = .ok written ∧ initial.decodeInto written = (.ok (), payload) ∧
      ∃ bytes, payload.encode = .ok bytes ∧ ∀ other : Payload, other.kind = initial.kind →
        other.decodeInto bytes = (.ok (), payload) := by
  intro initial payload document written
  have noOrder : initial.kind ≠ .orderPlaced := by decide
  have decoded : initial.decodeInto document = (.ok (), payload) := rfl
  have encoded : payload.encode = .ok written := by
    have digits : Leaf.writeNatural 9223372036854775808 =
        Leaf.ascii "9223372036854775808".toList := by
      simp [Leaf.writeNatural, Decimal.digits]
      rfl
    exact congrArg (fun digits => Except.ok (octet '-' :: digits)) digits
  obtain ⟨there, back⟩ := encode_decodeInto_inverse noOrder
  exact ⟨noOrder, decoded, encoded, ((there payload rfl).1 written encoded).2,
    (back document payload decoded).2.2⟩

end Payload

end TopicBus
