import Mathlib.Data.List.TakeWhile
import TopicBus.Proofs.Wire.Cuts
import TopicBus.Proofs.Wire.Records

/-!
# Torn and padded documents

A payload whose octets show where they end is only decoded from all of them. Wherever the octets
are torn, the front part is found to be cut short and nothing is decoded. What follows them has
to be blank, and is no JSON otherwise.
-/

namespace TopicBus

open Text (Bytes IsTorn)
open Scan (octet EndsNumber ReachesEnd)

theorem Scan.finish_eq (rest : Bytes) :
    finish rest = if rest.all isSpace then .ok () else .error .malformed := by
  simp only [finish, skipSpace, List.isEmpty_iff, List.dropWhile_eq_nil_iff, List.all_eq_true]

/-- The fields whose values, when they are torn, are only found to be cut short. -/
def Field.AreCuttable (fields : List Field) : Prop :=
  Field.AreExact fields ∧ ∀ field ∈ fields, field.leaf ≠ .optionalInteger

namespace Row

open Draft (upTo)
open Outcomes (ofRow)

variable {fields : List Field} {row : Row fields} {outcomes : Outcomes fields}
  {entries : List Bytes} {bytes front : Bytes} {met : Nat}

/-! ## Torn entries -/

/-- Each of the written entries is that of its field. -/
private theorem entry_written {entry : Bytes} (made : writeEntries fields row = .ok entries)
    (found : entries[met]? = some entry) :
    ∃ field value bytes, fields[met]? = some field ∧ field.leaf.write value = .ok bytes ∧
      entry = Leaf.writeText field.name ++ octet ':' :: bytes := by
  induction fields generalizing entries met with
  | nil =>
      cases made
      cases found
  | cons field fields inductionHypothesis =>
      obtain ⟨value, row⟩ := row
      obtain ⟨bytes, others, first, further, rfl⟩ := writeEntries_cons made
      cases met with
      | zero =>
          cases found
          exact ⟨field, value, bytes, rfl, first, rfl⟩
      | succ met => exact inductionHypothesis further found

private theorem entry_shape {entry : Bytes} (made : writeEntries fields row = .ok entries)
    (found : entries[met]? = some entry) : ∃ tail, entry = octet '"' :: tail := by
  obtain ⟨field, _, bytes, _, _, rfl⟩ := entry_written made found
  exact ⟨_, by rw [Leaf.writeText_eq, List.cons_append]⟩

/-- A field that has not been met is filled up to the end of the octets. -/
private theorem fill_reachesEnd (outcomes : Outcomes fields)
    (distinct : (fields.map Field.name).Nodup) {field : Field} (found : fields[met]? = some field)
    (torn : front = [] ∨ ∃ left, front = octet ':' :: left ∧ ReachesEnd (field.leaf.read left)) :
    ∃ outcome, Draft.fill field.name fields (upTo fields outcomes met) front = some outcome ∧
      ReachesEnd outcome := by
  induction fields generalizing met with
  | nil => cases found
  | cons other fields inductionHypothesis =>
      obtain ⟨outcome, outcomes⟩ := outcomes
      rw [List.map_cons, List.nodup_cons] at distinct
      cases met with
      | zero =>
          cases found
          simp only [upTo, Draft.empty, Draft.fill, if_true, Option.some.injEq, exists_eq_left']
          rcases torn with rfl | ⟨left, rfl, short | ⟨value, read⟩⟩
          · exact .inl rfl
          · simp only [Draft.colon_written, short]
            exact .inl rfl
          · simp only [Draft.colon_written, read]
            exact .inr ⟨_, rfl⟩
      | succ met =>
          have different : other.name ≠ field.name := by
            intro same
            exact distinct.1 (same ▸ List.mem_map_of_mem (List.mem_of_getElem? found))
          obtain ⟨result, filled, ends⟩ := inductionHypothesis outcomes distinct.2 found
          simp only [upTo, Draft.fill, different, if_false, filled, Option.map_some,
            Option.some.injEq, exists_eq_left']
          rcases ends with rfl | ⟨draft, rfl⟩
          · exact .inl rfl
          · exact .inr ⟨_, rfl⟩

private theorem entry_reachesEnd (cuttable : Field.AreCuttable fields)
    (made : writeEntries fields row = .ok entries) {tail : Bytes}
    (found : entries[met]? = some (octet '"' :: tail)) (torn : IsTorn front tail) :
    ReachesEnd (Draft.entry fields (upTo fields outcomes met) front) := by
  obtain ⟨field, value, bytes, there, written, shape⟩ := entry_written made found
  have member := List.mem_of_getElem? there
  obtain rfl :
      tail = (field.name.toList.flatMap Leaf.writeChar ++ [octet '"']) ++ octet ':' :: bytes := by
    rw [Leaf.writeText_eq, List.cons_append] at shape
    exact (List.cons.inj shape).2
  have name := Leaf.string_written field.name []
  -- The name is torn, or it is read, and then its colon is missing or its value is torn.
  rcases torn.append_cases with inName | ⟨left, rfl, behind⟩
  · simp only [Draft.entry, Scan.string_of_isTorn name inName]
    exact .inl rfl
  · have key := Leaf.string_written field.name left
    have cut :
        left = [] ∨ ∃ rest, left = octet ':' :: rest ∧ ReachesEnd (field.leaf.read rest) := by
      rcases behind.cons_cases with rfl | ⟨rest, rfl, inValue⟩
      · exact .inl rfl
      · exact .inr ⟨rest, rfl, Leaf.reachesEnd_of_isTorn (cuttable.1.1 field member)
          (cuttable.2 field member) written inValue⟩
    obtain ⟨outcome, filled, ends⟩ := fill_reachesEnd outcomes cuttable.1.2 there cut
    simp only [List.append_assoc, List.cons_append, List.nil_append, Draft.entry, key, filled]
    exact ends

/-! ## Torn records -/

private theorem readEntries_nil (bound : Nat) (first : Bool) (draft : Draft fields) :
    Draft.readEntries fields bound first draft [] = .error .truncated := by
  cases bound with
  | zero => simp only [Draft.readEntries]
  | succ bound => simp only [Draft.readEntries, Scan.skipSpace, List.dropWhile_nil]

/-- A mapping that ends in an entry is cut short. -/
private theorem next_of_reachesEnd (bound : Nat) {outcome : Except Flaw (Draft fields × Bytes)}
    (ends : ReachesEnd outcome) :
    Draft.readEntries.next fields bound outcome = .error .truncated := by
  rcases ends with rfl | ⟨draft, rfl⟩
  · simp only [Draft.readEntries.next]
  · simp only [Draft.readEntries.next, readEntries_nil]

/-- If the entries behind one are cut short wherever they are torn, so are the entries from that
one on. -/
private theorem next_of_isTorn (cuttable : Field.AreCuttable fields)
    (made : writeEntries fields row = .ok entries) {tail : Bytes} {others : List Bytes}
    (found : entries[met]? = some (octet '"' :: tail)) (bound : Nat)
    (further : ∀ {left : Bytes},
      IsTorn left ((others.flatMap fun other => octet ',' :: other) ++ [octet '\x7d']) →
        Draft.readEntries fields bound false (upTo fields (ofRow fields row) (met + 1)) left =
          .error .truncated)
    (torn : IsTorn front
      (tail ++ ((others.flatMap fun other => octet ',' :: other) ++ [octet '\x7d']))) :
    Draft.readEntries.next fields bound
        (Draft.entry fields (upTo fields (ofRow fields row) met) front) =
      .error .truncated := by
  rcases torn.append_cases with inEntry | ⟨left, rfl, behind⟩
  · exact next_of_reachesEnd bound (entry_reachesEnd cuttable made found inEntry)
  · have spelled := spelled_writeEntries cuttable.1.1 made
    obtain ⟨_, flaw, shape, there, taken⟩ := entry_spelled cuttable.1.2 spelled met found
    obtain rfl := (List.cons.inj shape).2
    obtain rfl : flaw = none := by
      rw [Outcomes.flaws_ofRow] at there
      exact List.eq_of_mem_replicate (List.mem_of_getElem? there)
    have ends : EndsNumber left := (endsNumber_entries others []).front behind.1
    rw [taken left ends, Draft.next_settled]
    exact further behind

/-- However many entries have been read, the others are cut short wherever they are torn. -/
private theorem readEntries_of_isTorn (cuttable : Field.AreCuttable fields)
    (made : writeEntries fields row = .ok entries) {others : List Bytes}
    (left : entries.drop met = others) (bound : Nat)
    (torn : IsTorn front ((others.flatMap fun other => octet ',' :: other) ++ [octet '\x7d'])) :
    Draft.readEntries fields bound false (upTo fields (ofRow fields row) met) front =
      .error .truncated := by
  have comma : Scan.isSpace (octet ',') = false := by decide
  have quote : Scan.isSpace (octet '"') = false := by decide
  have different : octet ',' ≠ octet '\x7d' := by decide
  induction others generalizing met bound front with
  | nil =>
      obtain rfl : front = [] := torn.eq_nil
      exact readEntries_nil bound false _
  | cons entry more inductionHypothesis =>
      have found : entries[met]? = some entry := by
        rw [← List.head?_drop, left]
        rfl
      have further : entries.drop (met + 1) = more := by
        rw [← List.tail_drop, left]
        rfl
      obtain ⟨tail, rfl⟩ := entry_shape made found
      simp only [List.flatMap_cons, List.cons_append, List.append_assoc] at torn
      rcases torn.cons_cases with rfl | ⟨rest, rfl, behind⟩
      · exact readEntries_nil bound false _
      · cases bound with
        | zero => simp only [Draft.readEntries]
        | succ bound =>
            rw [Draft.readEntries.eq_def]
            simp only [Scan.skipSpace_cons comma, different, if_false, Bool.false_eq_true, if_true]
            rcases behind.cons_cases with rfl | ⟨rest, rfl, inside⟩
            · rfl
            · simp only [Scan.skipSpace_cons quote, if_true]
              exact next_of_isTorn cuttable made found bound
                (fun torn => inductionHypothesis further bound torn) inside

/-- A record is cut short wherever its octets are torn. -/
theorem read_of_isTorn (cuttable : Field.AreCuttable fields)
    (written : write fields row = .ok bytes) (torn : IsTorn front bytes) :
    read fields front = .error .truncated := by
  have opening : Scan.isSpace (octet '\x7b') = false := by decide
  have quote : Scan.isSpace (octet '"') = false := by decide
  have noList : octet '\x7b' ≠ octet '[' := by decide
  have noEnd : octet '"' ≠ octet '\x7d' := by decide
  obtain ⟨entries, made, rfl⟩ := write_eq_ok written
  rw [List.cons_append] at torn
  rcases torn.cons_cases with rfl | ⟨left, rfl, inside⟩
  · rfl
  · have entriesRead : Draft.readEntries fields (left.length + 1) true (Draft.empty fields) left =
        .error .truncated := by
      cases entries with
      | nil =>
          obtain rfl : left = [] := inside.eq_nil
          exact readEntries_nil _ true _
      | cons entry others =>
          have found : (entry :: others)[0]? = some entry := rfl
          obtain ⟨tail, rfl⟩ := entry_shape made found
          rw [Leaf.separated_cons, List.append_assoc, List.cons_append] at inside
          rcases inside.cons_cases with rfl | ⟨rest, rfl, inEntries⟩
          · exact readEntries_nil _ true _
          · have first := next_of_isTorn cuttable made found (rest.length + 1)
              (fun torn => readEntries_of_isTorn cuttable made rfl _ torn) inEntries
            rw [Draft.upTo_zero] at first
            simp only [Draft.readEntries, Scan.skipSpace_cons quote, noEnd, if_false, if_true]
            exact first
    simp only [read, Scan.skipSpace_cons opening, noList, if_false, if_true, entriesRead]

end Row

namespace Payload

open Scan (isSpace)

/-- The shapes whose octets show where they end. -/
def Shape.IsDelimited : Shape → Prop
  | .plain leaf => leaf.IsDelimited
  | .record fields => Field.AreCuttable fields

/-- The kinds of payloads whose octets show where they end: records without doubles, texts,
nothing, and lists of texts. -/
def Kind.IsDelimited : Kind → Prop
  | .userCreated | .fileUpload | .ocrResult | .ping | .scores | .text | .unit | .texts => True
  | .orderPlaced | .word | .optionalInteger => False

theorem Kind.isDelimited_shape {kind : Kind} (delimited : kind.IsDelimited) :
    kind.shape.IsDelimited := by
  cases kind with
  | userCreated | fileUpload | ocrResult | ping | scores =>
      exact ⟨⟨by decide, by decide⟩, by decide⟩
  | text | unit | texts => exact delimited
  | orderPlaced | word | optionalInteger => exact delimited.elim

variable {shape : Shape} {value : shape.Val} {bytes front : Bytes}

theorem Shape.read_of_isTorn (delimited : shape.IsDelimited)
    (written : shape.write value = .ok bytes) (torn : IsTorn front bytes) :
    shape.read front = .error .truncated := by
  cases shape with
  | plain leaf => exact Leaf.read_of_isTorn delimited written torn
  | record fields => exact Row.read_of_isTorn delimited written torn

theorem Shape.read_write_append (delimited : shape.IsDelimited)
    (written : shape.write value = .ok bytes) (rest : Bytes) :
    shape.read (bytes ++ rest) = .ok (value, rest) := by
  cases shape with
  | plain leaf => exact Leaf.read_write_of_isDelimited delimited written rest
  | record fields => exact Row.read_write delimited.1 written rest

variable {payload initial : Payload}

theorem decode_of_isTorn (delimited : payload.kind.IsDelimited)
    (encoded : payload.encode = .ok bytes)
    (torn : IsTorn front bytes) : decode payload.kind front = .error .truncated := by
  have short := Shape.read_of_isTorn (Kind.isDelimited_shape delimited) encoded torn
  simp only [decode, short]

theorem decode_append (delimited : payload.kind.IsDelimited) (encoded : payload.encode = .ok bytes)
    (rest : Bytes) :
    decode payload.kind (bytes ++ rest) =
      if rest.all isSpace then .ok payload else .error .malformed := by
  have read := Shape.read_write_append (Kind.isDelimited_shape delimited) encoded rest
  simp only [decode, read, Scan.finish_eq]
  by_cases blank : rest.all isSpace
  · simp only [if_pos blank, ofVal_val]
  · simp only [if_neg blank]

/--
The octets of a payload that show where they end are decoded just if they are all there and
nothing follows but spaces, tabs, line feeds and carriage returns. When they are torn they are
found to be cut short, when anything else follows they are no JSON, and in both cases what was
there before is left as it was.
-/
theorem decodeInto_torn_or_padded (delimited : payload.kind.IsDelimited)
    (same : initial.kind = payload.kind) (encoded : payload.encode = .ok bytes) :
    (∀ front, front <+: bytes → front ≠ bytes →
        initial.decodeInto front = (.error .truncated, initial)) ∧
      ∀ rest, initial.decodeInto (bytes ++ rest) =
        if rest.all isSpace then (.ok (), payload) else (.error .malformed, initial) := by
  constructor
  · intro front before part
    rw [decodeInto, same, decode_of_isTorn delimited encoded ⟨before, part⟩]
  · intro rest
    rw [decodeInto, same, decode_append delimited encoded rest]
    by_cases blank : rest.all isSpace
    · simp only [if_pos blank]
    · simp only [if_neg blank]

/-- A record torn within a character, within an escape and between two digits, and followed by
blanks or by a comma. -/
theorem upload_torn_or_padded :
    let initial : Payload := .fileUpload ⟨"before", 7⟩
    let payload : Payload := .fileUpload ⟨"ü\t", 12⟩
    let bytes := Text.Utf8.encode "\x7b\"path\":\"ü\\t\",\"size\":12\x7d"
    payload.kind.IsDelimited ∧ initial.kind = payload.kind ∧ payload.encode = .ok bytes ∧
      initial.decodeInto (bytes.take 10) = (.error .truncated, initial) ∧
      initial.decodeInto (bytes.take 12) = (.error .truncated, initial) ∧
      initial.decodeInto (bytes.take 23) = (.error .truncated, initial) ∧
      initial.decodeInto (bytes ++ [0x20, 0x0A]) = (.ok (), payload) ∧
      initial.decodeInto (bytes ++ [0x2C]) = (.error .malformed, initial) := by
  intro initial payload bytes
  have encoded : payload.encode = .ok bytes := by
    have digits : Leaf.writeNatural (12 : UInt64).toNat = [0x31, 0x32] := by
      simp [Leaf.writeNatural, Decimal.digits]
      rfl
    simp only [encode, payload, Shape.write, kind, Kind.shape, val, Row.write, Row.writeEntries,
      Leaf.write, digits]
    rfl
  have delimited : payload.kind.IsDelimited := trivial
  have same : initial.kind = payload.kind := rfl
  obtain ⟨torn, padded⟩ := decodeInto_torn_or_padded delimited same encoded
  have part : bytes.take 10 ≠ bytes ∧ bytes.take 12 ≠ bytes ∧ bytes.take 23 ≠ bytes := by decide
  exact ⟨delimited, same, encoded, torn _ (List.take_prefix 10 bytes) part.1,
    torn _ (List.take_prefix 12 bytes) part.2.1, torn _ (List.take_prefix 23 bytes) part.2.2,
    padded [0x20, 0x0A], padded [0x2C]⟩

end Payload

end TopicBus
