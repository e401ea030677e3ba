import TopicBus.Proofs.Wire.Numbers
import TopicBus.Proofs.Wire.Strings

/-!
# Plain values, written and read back

Whatever is written for a plain value is read back as that value, doubles apart, which are not
written with all their digits. What follows the value does not matter, unless the value is a
number and the next octet would carry it on.
-/

namespace TopicBus.Leaf

open Text (Bytes)
open Scan (octet EndsNumber)

private theorem toNat_le_maxWord (n : UInt64) : n.toNat ≤ Scan.maxWord :=
  Nat.le_pred_of_lt n.toNat_lt_size

variable {rest : Bytes}

/-! ## Words -/

theorem readNumber_word32 (n : UInt32) (ends : EndsNumber rest) :
    readNumber word32? (writeNatural n.toNat ++ rest) = .ok (n, rest) := by
  have small : n.toNat < UInt32.size := n.toNat_lt_size
  have within : n.toNat ≤ Scan.maxWord := Nat.le_trans (Nat.le_of_lt small) (by decide)
  refine readNumber_writeNatural within ?_ ends
  simp [word32?, small]

theorem readNumber_word64 (n : UInt64) (ends : EndsNumber rest) :
    readNumber word64? (writeNatural n.toNat ++ rest) = .ok (n, rest) := by
  have small : n.toNat < UInt64.size := n.toNat_lt_size
  refine readNumber_writeNatural (toNat_le_maxWord n) ?_ ends
  simp [word64?, small]

private theorem writeInteger_shape (n : Int) :
    ∃ first tail, writeInteger n = first :: tail ∧ Scan.startsNumber first = true := by
  cases n with
  | ofNat n =>
      obtain ⟨first, tail, shape⟩ := List.exists_cons_of_ne_nil (writeNatural_ne_nil n)
      have digit := isDigit_of_mem_writeNatural n first (by simp [shape])
      exact ⟨first, tail, shape, by simp [Scan.startsNumber, digit]⟩
  | negSucc n => exact ⟨octet '-', writeNatural (n + 1), rfl, by decide⟩

theorem readNumber_integer64 (n : Int64) (ends : EndsNumber rest) :
    readNumber integer64? (writeInteger n.toInt ++ rest) = .ok (n, rest) := by
  have above : n.toInt < 2 ^ 63 := n.toInt_lt
  have below : -(2 ^ 63) ≤ n.toInt := n.le_toInt
  have back : Int64.ofInt n.toInt = n := Int64.ofInt_toInt n
  cases sign : n.toInt with
  | ofNat size =>
      rw [sign] at above back
      have small : size < Nat.pow 2 63 := Int.ofNat_lt.mp above
      have within : size ≤ Scan.maxWord := Nat.le_trans (Nat.le_of_lt small) (by decide)
      refine readNumber_writeNatural within ?_ ends
      simp only [integer64?, small, if_true]
      exact congrArg some back
  | negSucc size =>
      rw [sign] at below back
      have small : size + 1 ≤ Nat.pow 2 63 := by
        simp only [Nat.pow_eq]
        omega
      refine readNumber_writeNegative (by omega) small ?_ ends
      simp only [integer64?, small, if_true]
      exact congrArg some back

/-! ## Values that may be absent, and lists -/

private theorem readNull_written (rest : Bytes) :
    readNull (Scan.letters "null" ++ rest) = .ok ((), rest) := by
  have letters : Scan.letters "null" = octet 'n' :: Scan.letters "ull" := by decide
  have solid : Scan.isSpace (octet 'n') = false := by decide
  have word : Scan.word (Scan.letters "ull") (Scan.letters "ull" ++ rest) = .ok rest := by
    simp [Scan.letters, Scan.word]
  simp only [letters, List.cons_append, readNull, Scan.skipSpace_cons solid, if_true, word,
    Except.map]

private theorem read_optionalInteger_none (rest : Bytes) :
    Leaf.optionalInteger.read (Scan.letters "null" ++ rest) = .ok (none, rest) := by
  have letters : Scan.letters "null" = octet 'n' :: Scan.letters "ull" := by decide
  have solid : Scan.isSpace (octet 'n') = false := by decide
  have word : Scan.word (Scan.letters "ull") (Scan.letters "ull" ++ rest) = .ok rest := by
    simp [Scan.letters, Scan.word]
  simp only [letters, List.cons_append, read, Scan.skipSpace_cons solid, if_true, word, Except.map]

private theorem read_optionalInteger_some (n : Int64) (ends : EndsNumber rest) :
    Leaf.optionalInteger.read (writeInteger n.toInt ++ rest) = .ok (some n, rest) := by
  obtain ⟨first, tail, shape, starts⟩ := writeInteger_shape n.toInt
  have number := readNumber_integer64 n ends
  have noNull : first ≠ octet 'n' := by
    rintro rfl
    revert starts
    decide
  have solid : Scan.isSpace first = false := Scan.isSpace_of_startsNumber starts
  rw [shape, List.cons_append] at number ⊢
  simp only [read, Scan.skipSpace_cons solid, noNull, if_false, number, Except.map]

/-- Every value but the first one follows behind a comma. -/
theorem separated_cons (bytes : Bytes) (others : List Bytes) :
    separated (bytes :: others) = bytes ++ others.flatMap fun other => octet ',' :: other := by
  induction others generalizing bytes with
  | nil => simp [separated]
  | cons next more inductionHypothesis =>
      rw [separated, inductionHypothesis]
      · simp
      · simp

theorem length_le_flatMap (others : List Bytes) :
    others.length ≤ (others.flatMap fun other => octet ',' :: other).length := by
  induction others with
  | nil => exact Nat.le_refl _
  | cons next more inductionHypothesis =>
      simp only [List.flatMap_cons, List.length_append, List.length_cons]
      omega

private theorem readTexts_written (item : String) (others : List String) (bound : Nat)
    (seen : List String) (rest : Bytes) (enough : others.length < bound) :
    readTexts bound seen
        (writeText item ++ ((others.map writeText).flatMap fun other => octet ',' :: other) ++
          octet ']' :: rest) =
      .ok (seen.reverse ++ item :: others, rest) := by
  have bracket : Scan.isSpace (octet ']') = false := by decide
  have comma : Scan.isSpace (octet ',') = false := by decide
  have quote : Scan.isSpace (octet '"') = false := by decide
  have different : octet ']' ≠ octet ',' ∧ octet '"' ≠ octet ']' := by decide
  obtain ⟨left, rfl⟩ : ∃ left, bound = left + 1 := ⟨bound - 1, by omega⟩
  induction others generalizing item left seen with
  | nil => simp [readTexts, readText_writeText, Scan.skipSpace_cons bracket, different.1]
  | cons next more inductionHypothesis =>
      simp only [List.length_cons] at enough
      obtain ⟨less, rfl⟩ : ∃ less, left = less + 1 := ⟨left - 1, by omega⟩
      have further := inductionHypothesis next (item :: seen) less (by omega)
      simp only [writeText_eq next, List.cons_append, List.append_assoc] at further
      rw [readTexts.eq_def]
      simp only [List.map_cons, List.flatMap_cons, List.cons_append, List.append_assoc,
        readText_writeText, Scan.skipSpace_cons comma, if_true, writeText_eq next,
        Scan.skipSpace_cons quote, different.2, if_false, further]
      simp

private theorem read_texts (items : List String) (rest : Bytes) :
    Leaf.texts.read ((octet '[' :: separated (items.map writeText) ++ [octet ']']) ++ rest) =
      .ok (items, rest) := by
  have opening : Scan.isSpace (octet '[') = false := by decide
  have closing : Scan.isSpace (octet ']') = false := by decide
  have quote : Scan.isSpace (octet '"') = false := by decide
  have different : octet '"' ≠ octet ']' := by decide
  cases items with
  | nil => simp [read, separated, Scan.skipSpace_cons opening, Scan.skipSpace_cons closing]
  | cons item others =>
      have commas := length_le_flatMap (others.map writeText)
      rw [List.length_map] at commas
      have texts := readTexts_written item others
        ((item.toList.flatMap writeChar ++ octet '"' ::
          (((others.map writeText).flatMap fun other => octet ',' :: other) ++
            octet ']' :: rest)).length + 2) [] rest (by
          simp only [List.length_append, List.length_cons]
          omega)
      simp only [writeText_eq item, List.cons_append, List.append_assoc, List.nil_append,
        List.reverse_nil] at texts
      simp only [List.map_cons, separated_cons, List.cons_append, List.append_assoc,
        List.nil_append, read, Scan.skipSpace_cons opening, if_true, writeText_eq item,
        Scan.skipSpace_cons quote, different, if_false, texts]

/-! ## All kinds -/

/-- The kinds of values that show where they end: in quotes, in brackets or as a word. -/
def IsDelimited : Leaf → Prop
  | .text | .unit | .texts | .pairs => True
  | .word32 | .word64 | .optionalInteger | .real => False

/-- What is written for a value that shows where it ends is read back, whatever follows. -/
theorem read_write_of_isDelimited {leaf : Leaf} (delimited : leaf.IsDelimited) {value : leaf.Val}
    {bytes : Bytes} (written : leaf.write value = .ok bytes) (rest : Bytes) :
    leaf.read (bytes ++ rest) = .ok (value, rest) := by
  cases leaf with
  | text =>
      cases written
      exact readText_writeText value rest
  | unit =>
      cases written
      exact readNull_written rest
  | texts =>
      cases written
      exact read_texts value rest
  | pairs =>
      cases value with
      | nil =>
          cases written
          have opening : Scan.isSpace (octet '\x7b') = false := by decide
          have closing : Scan.isSpace (octet '\x7d') = false := by decide
          simp [read, Scan.skipSpace_cons opening, Scan.skipSpace_cons closing]
      | cons entry entries => cases written
  | word32 | word64 | optionalInteger | real => exact delimited.elim

/-- What is written for a value is read back, doubles apart. -/
theorem read_write {leaf : Leaf} (notReal : leaf ≠ .real) {value : leaf.Val} {bytes : Bytes}
    (written : leaf.write value = .ok bytes) (ends : EndsNumber rest) :
    leaf.read (bytes ++ rest) = .ok (value, rest) := by
  cases leaf with
  | word32 =>
      cases written
      exact readNumber_word32 value ends
  | word64 =>
      cases written
      exact readNumber_word64 value ends
  | optionalInteger =>
      cases value with
      | none =>
          cases written
          exact read_optionalInteger_none rest
      | some n =>
          cases written
          exact read_optionalInteger_some n ends
  | real => exact absurd rfl notReal
  | text | unit | texts | pairs => exact read_write_of_isDelimited (by trivial) written rest

end TopicBus.Leaf
