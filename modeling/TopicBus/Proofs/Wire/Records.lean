import TopicBus.Payload.Wire
import TopicBus.Proofs.Wire.Values

/-!
# Records, written and read back

The entries of a record are written in the order of its fields, so while they are read back the
fields are filled from the front on: after each entry one more of them has its value, until a
value is met that cannot be read. With the way back from the octets of every value, a record is
what was written, and a payload is what its own octets decode to, unless it holds a double.
-/

namespace TopicBus

open Text (Bytes)
open Scan (octet EndsNumber)

/-- No field holds a double, and no two fields have one name. -/
def Field.AreExact (fields : List Field) : Prop :=
  (∀ field ∈ fields, field.leaf ≠ .real) ∧ (fields.map Field.name).Nodup

/-- Whatever follows that is no part of a number, the value at the front of the octets is read
with this outcome. -/
def Leaf.Yields (leaf : Leaf) (bytes : Bytes) (outcome : Except Flaw leaf.Val) : Prop :=
  ∀ rest, EndsNumber rest → leaf.read (bytes ++ rest) = outcome.map fun value => (value, rest)

theorem Leaf.yields_write {leaf : Leaf} (notReal : leaf ≠ .real) {value : leaf.Val} {bytes : Bytes}
    (written : leaf.write value = .ok bytes) : leaf.Yields bytes (.ok value) :=
  fun _ ends => Leaf.read_write notReal written ends

/-- What comes of the values of a record when each is read for itself. -/
abbrev Outcomes : List Field → Type
  | [] => Unit
  | field :: fields => Except Flaw field.leaf.Val × Outcomes fields

namespace Outcomes

/-- All values have been read. -/
def ofRow : (fields : List Field) → Row fields → Outcomes fields
  | [], () => ()
  | _ :: fields, (value, row) => (.ok value, ofRow fields row)

/-- The record of the values, or what is wrong with the first one that cannot be read. -/
def collect : (fields : List Field) → Outcomes fields → Except Flaw (Row fields)
  | [], () => .ok ()
  | _ :: fields, (outcome, outcomes) =>
      match outcome, collect fields outcomes with
      | .error flaw, _ => .error flaw
      | .ok _, .error flaw => .error flaw
      | .ok value, .ok row => .ok (value, row)

/-- What is wrong with each of the values. -/
def flaws : (fields : List Field) → Outcomes fields → List (Option Flaw)
  | [], () => []
  | _ :: fields, (.ok _, outcomes) => none :: flaws fields outcomes
  | _ :: fields, (.error flaw, outcomes) => some flaw :: flaws fields outcomes

/-- The octets of each entry are its name, a colon and octets that yield its outcome. -/
def Spelled : (fields : List Field) → Outcomes fields → List Bytes → Prop
  | [], (), entries => entries = []
  | field :: fields, (outcome, outcomes), entries =>
      ∃ bytes others, entries = (Leaf.writeText field.name ++ octet ':' :: bytes) :: others ∧
        field.leaf.Yields bytes outcome ∧ Spelled fields outcomes others

variable {fields : List Field} {outcomes : Outcomes fields} {entries : List Bytes}

theorem collect_ofRow (fields : List Field) (row : Row fields) :
    collect fields (ofRow fields row) = .ok row := by
  induction fields with
  | nil => rfl
  | cons field fields inductionHypothesis =>
      simp only [ofRow, collect, inductionHypothesis]

theorem flaws_ofRow (fields : List Field) (row : Row fields) :
    flaws fields (ofRow fields row) = List.replicate fields.length none := by
  induction fields with
  | nil => rfl
  | cons field fields inductionHypothesis =>
      simp only [ofRow, flaws, inductionHypothesis, List.length_cons, List.replicate_succ]

theorem length_of_spelled (spelled : Spelled fields outcomes entries) :
    entries.length = fields.length ∧ (flaws fields outcomes).length = fields.length := by
  induction fields generalizing entries with
  | nil =>
      obtain rfl : entries = [] := spelled
      exact ⟨rfl, rfl⟩
  | cons field fields inductionHypothesis =>
      obtain ⟨outcome, outcomes⟩ := outcomes
      obtain ⟨bytes, others, rfl, _, further⟩ := spelled
      obtain ⟨entriesLength, flawsLength⟩ := inductionHypothesis further
      cases outcome with
      | ok value => exact ⟨by simp [entriesLength], by simp [flaws, flawsLength]⟩
      | error flaw => exact ⟨by simp [entriesLength], by simp [flaws, flawsLength]⟩

/-- The first flaw is that of the record. -/
theorem collect_eq_error {flaw : Flaw} (first : (flaws fields outcomes).findSome? id = some flaw) :
    collect fields outcomes = .error flaw := by
  induction fields with
  | nil => cases first
  | cons field fields inductionHypothesis =>
      obtain ⟨outcome, outcomes⟩ := outcomes
      cases outcome with
      | ok value => simp only [collect, inductionHypothesis first]
      | error other =>
          cases first
          rfl

end Outcomes

namespace Draft

open Outcomes (flaws)

/-- The draft in which the given number of fields, from the first one on, have been met. -/
def upTo : (fields : List Field) → Outcomes fields → Nat → Draft fields
  | fields, _, 0 => empty fields
  | [], (), _ + 1 => ()
  | _ :: fields, (outcome, outcomes), met + 1 => (outcome.toOption, upTo fields outcomes met)

@[simp]
theorem upTo_zero (fields : List Field) (outcomes : Outcomes fields) :
    upTo fields outcomes 0 = empty fields := by
  cases fields <;> rfl

/-- What is left of a mapping after an entry: its flaw ends the reading. -/
def settled {fields : List Field} (flaw : Option Flaw) (draft : Draft fields) (rest : Bytes) :
    Except Flaw (Draft fields × Bytes) :=
  match flaw with
  | some flaw => .error flaw
  | none => .ok (draft, rest)

theorem next_settled {fields : List Field} (bound : Nat) (flaw : Option Flaw)
    (draft : Draft fields) (rest : Bytes) :
    readEntries.next fields bound (settled flaw draft rest) =
      match flaw with
      | some flaw => .error flaw
      | none => readEntries fields bound false draft rest := by
  cases flaw with
  | some flaw => simp only [settled, readEntries.next]
  | none => simp only [settled, readEntries.next]

/-- Without a flaw the draft of all fields is the record. -/
theorem complete?_upTo (fields : List Field) (outcomes : Outcomes fields) (met : Nat)
    (all : fields.length ≤ met) (flawless : (flaws fields outcomes).findSome? id = none) :
    ∃ row, complete? fields (upTo fields outcomes met) = some row ∧
      Outcomes.collect fields outcomes = .ok row := by
  induction fields generalizing met with
  | nil => cases met <;> exact ⟨(), rfl, rfl⟩
  | cons field fields inductionHypothesis =>
      obtain ⟨outcome, outcomes⟩ := outcomes
      cases met with
      | zero => simp at all
      | succ met =>
          cases outcome with
          | error flaw => cases flawless
          | ok value =>
              obtain ⟨row, complete, collected⟩ := inductionHypothesis outcomes met
                (Nat.le_of_succ_le_succ all) flawless
              refine ⟨(value, row), ?_, ?_⟩
              · simp [upTo, complete?, complete, Except.toOption]
              · simp only [Outcomes.collect, collected]

theorem colon_written (rest : Bytes) : colon (octet ':' :: rest) = .ok rest := by
  have solid : Scan.isSpace (octet ':') = false := by decide
  simp only [colon, Scan.skipSpace_cons solid, if_true]

end Draft

namespace Row

open Draft (upTo settled)
open Outcomes (Spelled flaws)

variable {fields : List Field} {row : Row fields} {outcomes : Outcomes fields}
  {entries : List Bytes} {bytes rest : Bytes}

/-- The entry behind those of the fields that are met is that of the next field, which it fills. -/
private theorem fill_spelled (distinct : (fields.map Field.name).Nodup)
    (spelled : Spelled fields outcomes entries) {met : Nat} {entry : Bytes}
    (found : entries[met]? = some entry) :
    ∃ field bytes flaw, field ∈ fields ∧ (flaws fields outcomes)[met]? = some flaw ∧
      entry = Leaf.writeText field.name ++ octet ':' :: bytes ∧
      ∀ rest, EndsNumber rest →
        Draft.fill field.name fields (upTo fields outcomes met) (octet ':' :: (bytes ++ rest)) =
          some (settled flaw (upTo fields outcomes (met + 1)) rest) := by
  -- The fields in front of the next one are passed because their names are different.
  induction fields generalizing entries met with
  | nil =>
      obtain rfl : entries = [] := spelled
      cases found
  | cons field fields inductionHypothesis =>
      obtain ⟨outcome, outcomes⟩ := outcomes
      obtain ⟨bytes, others, rfl, yields, further⟩ := spelled
      rw [List.map_cons, List.nodup_cons] at distinct
      cases met with
      | zero =>
          cases found
          cases outcome with
          | ok value =>
              refine ⟨field, bytes, none, List.mem_cons_self, rfl, rfl, fun rest ends => ?_⟩
              have read := yields rest ends
              simp only [upTo, Draft.empty, Draft.fill, if_true, Draft.colon_written, read,
                Except.map, Draft.upTo_zero, Except.toOption, settled]
          | error flaw =>
              refine ⟨field, bytes, some flaw, List.mem_cons_self, rfl, rfl, fun rest ends => ?_⟩
              have read := yields rest ends
              simp only [upTo, Draft.empty, Draft.fill, if_true, Draft.colon_written, read,
                Except.map, settled]
      | succ met =>
          obtain ⟨next, bytes, flaw, member, same, shape, fills⟩ :=
            inductionHypothesis distinct.2 further found
          refine ⟨next, bytes, flaw, List.mem_cons_of_mem _ member, ?_, shape, fun rest ends => ?_⟩
          · cases outcome with
            | ok value => exact same
            | error flaw => exact same
          · have different : field.name ≠ next.name := by
              intro same
              exact distinct.1 (same ▸ List.mem_map_of_mem member)
            simp only [upTo, Draft.fill, different, if_false, fills rest ends, Option.map_some]
            cases flaw with
            | none => rfl
            | some flaw => rfl

theorem entry_spelled (distinct : (fields.map Field.name).Nodup)
    (spelled : Spelled fields outcomes entries) (met : Nat) {entry : Bytes}
    (found : entries[met]? = some entry) :
    ∃ tail flaw, entry = octet '"' :: tail ∧ (flaws fields outcomes)[met]? = some flaw ∧
      ∀ rest, EndsNumber rest →
        Draft.entry fields (upTo fields outcomes met) (tail ++ rest) =
          settled flaw (upTo fields outcomes (met + 1)) rest := by
  obtain ⟨field, bytes, flaw, _, same, rfl, fills⟩ := fill_spelled distinct spelled found
  refine ⟨field.name.toList.flatMap Leaf.writeChar ++ octet '"' :: octet ':' :: bytes, flaw, ?_,
    same, fun rest ends => ?_⟩
  · simp [Leaf.writeText_eq]
  · have key := Leaf.string_written field.name (octet ':' :: (bytes ++ rest))
    simp only [List.append_assoc, List.cons_append, Draft.entry, key, fills rest ends]

theorem endsNumber_entries (others : List Bytes) (rest : Bytes) :
    EndsNumber ((others.flatMap fun other => octet ',' :: other) ++ octet '\x7d' :: rest) := by
  cases others with
  | nil => exact Scan.endsNumber_cons (by decide) _
  | cons next more => exact Scan.endsNumber_cons (by decide) _

private theorem drop_flaws {flaw : Option Flaw} {met : Nat}
    (there : (flaws fields outcomes)[met]? = some flaw) :
    (flaws fields outcomes).drop met = flaw :: (flaws fields outcomes).drop (met + 1) := by
  obtain ⟨inside, rfl⟩ := List.getElem?_eq_some_iff.mp there
  exact List.drop_eq_getElem_cons inside

/-- The entries behind those that were read are read up to the closing bracket, or up to the
first flaw. -/
private theorem readEntries_spelled (distinct : (fields.map Field.name).Nodup)
    (spelled : Spelled fields outcomes entries) (others : List Bytes) (met bound : Nat)
    (left : entries.drop met = others) (enough : others.length < bound) (rest : Bytes) :
    Draft.readEntries fields bound false (upTo fields outcomes met)
        ((others.flatMap fun other => octet ',' :: other) ++ octet '\x7d' :: rest) =
      settled (((flaws fields outcomes).drop met).findSome? id)
        (upTo fields outcomes (met + others.length)) rest := by
  have comma : Scan.isSpace (octet ',') = false := by decide
  have quote : Scan.isSpace (octet '"') = false := by decide
  have closing : Scan.isSpace (octet '\x7d') = false := by decide
  have different : octet ',' ≠ octet '\x7d' := by decide
  obtain ⟨less, rfl⟩ : ∃ less, bound = less + 1 := ⟨bound - 1, by omega⟩
  -- The induction is on the entries that are left; the draft before each is filled up to its field.
  induction others generalizing met less with
  | nil =>
      obtain ⟨entriesLength, flawsLength⟩ := Outcomes.length_of_spelled spelled
      have all : entries.length ≤ met := List.drop_eq_nil_iff.mp left
      have none : (flaws fields outcomes).drop met = [] := List.drop_eq_nil_iff.mpr (by omega)
      rw [none]
      simp only [List.flatMap_nil, List.nil_append, Draft.readEntries, Scan.skipSpace_cons closing,
        if_true]
      rfl
  | cons entry more inductionHypothesis =>
      simp only [List.length_cons] at enough
      obtain ⟨fewer, rfl⟩ : ∃ fewer, less = fewer + 1 := ⟨less - 1, by omega⟩
      have found : entries[met]? = some entry := by
        rw [← List.head?_drop, left]
        rfl
      have further : entries.drop (met + 1) = more := by
        rw [← List.tail_drop, left]
        rfl
      obtain ⟨tail, flaw, rfl, there, taken⟩ := entry_spelled distinct spelled met found
      have read := inductionHypothesis (met + 1) further fewer (by omega)
      have count : met + 1 + more.length = met + (more.length + 1) := by omega
      rw [Draft.readEntries.eq_def, drop_flaws there]
      simp only [List.flatMap_cons, List.cons_append, List.append_assoc, Scan.skipSpace_cons comma,
        different, if_false, Bool.false_eq_true, if_true, Scan.skipSpace_cons quote,
        taken _ (endsNumber_entries more rest), Draft.next_settled]
      cases flaw with
      | some flaw => rfl
      | none =>
          rw [count] at read
          exact read

/-- The octets of a record whose values yield outcomes are read as the record of these, or fail
with the first flaw. -/
theorem read_spelled (distinct : (fields.map Field.name).Nodup)
    (spelled : Spelled fields outcomes entries) (rest : Bytes) :
    read fields ((octet '\x7b' :: Leaf.separated entries ++ [octet '\x7d']) ++ rest) =
      (Outcomes.collect fields outcomes).map fun row => (row, rest) := by
  have opening : Scan.isSpace (octet '\x7b') = false := by decide
  have closing : Scan.isSpace (octet '\x7d') = false := by decide
  have quote : Scan.isSpace (octet '"') = false := by decide
  have noList : octet '\x7b' ≠ octet '[' := by decide
  have noEnd : octet '"' ≠ octet '\x7d' := by decide
  obtain ⟨entriesLength, flawsLength⟩ := Outcomes.length_of_spelled spelled
  have entriesRead : Draft.readEntries fields
      ((Leaf.separated entries ++ octet '\x7d' :: rest).length + 1) true (Draft.empty fields)
        (Leaf.separated entries ++ octet '\x7d' :: rest) =
      settled ((flaws fields outcomes).findSome? id)
        (upTo fields outcomes entries.length) rest := by
    cases entries with
    | nil =>
        obtain flawless : flaws fields outcomes = [] :=
          List.eq_nil_of_length_eq_zero (flawsLength.trans entriesLength.symm)
        rw [flawless, List.length_nil, Draft.upTo_zero]
        simp only [Leaf.separated, List.nil_append, Draft.readEntries,
          Scan.skipSpace_cons closing, if_true]
        rfl
    | cons entry others =>
        obtain ⟨tail, flaw, rfl, there, taken⟩ := entry_spelled distinct spelled 0 rfl
        have commas := Leaf.length_le_flatMap others
        have further := readEntries_spelled distinct spelled others 1
          (octet '"' :: (tail ++ ((others.flatMap fun other => octet ',' :: other) ++
            octet '\x7d' :: rest))).length rfl (by
            simp only [List.length_cons, List.length_append]
            omega) rest
        have first := taken _ (endsNumber_entries others rest)
        have flawsFrom := drop_flaws there
        have count : 1 + others.length = others.length + 1 := Nat.add_comm _ _
        rw [List.drop_zero] at flawsFrom
        rw [Draft.upTo_zero] at first
        rw [flawsFrom]
        simp only [Leaf.separated_cons, List.cons_append, List.append_assoc, Draft.readEntries,
          Scan.skipSpace_cons quote, noEnd, if_false, if_true, first, Draft.next_settled]
        cases flaw with
        | some flaw => rfl
        | none =>
            rw [count] at further
            exact further
  simp only [List.cons_append, List.append_assoc, List.nil_append, read,
    Scan.skipSpace_cons opening, noList, if_false, if_true, entriesRead]
  cases flaw : (flaws fields outcomes).findSome? id with
  | some flaw =>
      rw [Outcomes.collect_eq_error ‹_›]
      rfl
  | none =>
      obtain ⟨row, complete, collected⟩ :=
        Draft.complete?_upTo fields outcomes entries.length (Nat.le_of_eq entriesLength.symm) flaw
      simp only [settled, complete, collected, Except.map]

/-! ## What is written -/

theorem writeEntries_cons {field : Field} {value : field.leaf.Val}
    (written : writeEntries (field :: fields) (value, row) = .ok entries) :
    ∃ bytes others, field.leaf.write value = .ok bytes ∧ writeEntries fields row = .ok others ∧
      entries = (Leaf.writeText field.name ++ octet ':' :: bytes) :: others := by
  unfold writeEntries at written
  cases first : field.leaf.write value with
  | error flaw =>
      rw [first] at written
      cases written
  | ok bytes =>
      cases further : writeEntries fields row with
      | error flaw =>
          rw [first, further] at written
          cases written
      | ok others =>
          rw [first, further] at written
          cases written
          exact ⟨bytes, others, rfl, rfl, rfl⟩

theorem write_eq_ok (written : write fields row = .ok bytes) :
    ∃ entries, writeEntries fields row = .ok entries ∧
      bytes = octet '\x7b' :: Leaf.separated entries ++ [octet '\x7d'] := by
  unfold write at written
  cases made : writeEntries fields row with
  | error flaw =>
      rw [made] at written
      cases written
  | ok entries =>
      rw [made] at written
      cases written
      exact ⟨entries, rfl, rfl⟩

/-- What is written for a record without doubles yields its values. -/
theorem spelled_writeEntries (exact : ∀ field ∈ fields, field.leaf ≠ .real)
    (written : writeEntries fields row = .ok entries) :
    Spelled fields (Outcomes.ofRow fields row) entries := by
  induction fields generalizing entries with
  | nil =>
      cases written
      rfl
  | cons field fields inductionHypothesis =>
      obtain ⟨value, row⟩ := row
      obtain ⟨bytes, others, first, further, rfl⟩ := writeEntries_cons written
      refine ⟨bytes, others, rfl, ?_, ?_⟩
      · exact Leaf.yields_write (exact field List.mem_cons_self) first
      · exact inductionHypothesis (fun field member => exact field (List.mem_cons_of_mem _ member))
          further

/-- What is written for a record without doubles is read back. -/
theorem read_write (exact : Field.AreExact fields) (written : write fields row = .ok bytes)
    (rest : Bytes) : read fields (bytes ++ rest) = .ok (row, rest) := by
  obtain ⟨entries, made, rfl⟩ := write_eq_ok written
  rw [read_spelled exact.2 (spelled_writeEntries exact.1 made), Outcomes.collect_ofRow]
  rfl

end Row

namespace Payload

/-- A shape without doubles. -/
def Shape.IsExact : Shape → Prop
  | .plain leaf => leaf ≠ .real
  | .record fields => Field.AreExact fields

theorem Kind.isExact_shape {kind : Kind} (noOrder : kind ≠ .orderPlaced) : kind.shape.IsExact := by
  cases kind with
  | orderPlaced => exact absurd rfl noOrder
  | userCreated | fileUpload | ocrResult | ping | scores => exact ⟨by decide, by decide⟩
  | word | text | unit | optionalInteger | texts => exact Leaf.noConfusion

theorem Shape.read_write {shape : Shape} (exact : shape.IsExact) {value : shape.Val} {bytes : Bytes}
    (written : shape.write value = .ok bytes) : shape.read bytes = .ok (value, []) := by
  cases shape with
  | plain leaf =>
      have read := Leaf.read_write exact written Scan.endsNumber_nil
      rw [List.append_nil] at read
      exact read
  | record fields =>
      have read := Row.read_write exact written []
      rw [List.append_nil] at read
      exact read

/-- A payload without doubles is what its octets decode to. -/
theorem decode_encode {payload : Payload} (noOrder : payload.kind ≠ .orderPlaced) {bytes : Bytes}
    (encoded : payload.encode = .ok bytes) : decode payload.kind bytes = .ok payload := by
  have read := Shape.read_write (Kind.isExact_shape noOrder) encoded
  have finished : Scan.finish [] = .ok () := rfl
  simp only [decode, read, finished, ofVal_val]

end Payload

end TopicBus
