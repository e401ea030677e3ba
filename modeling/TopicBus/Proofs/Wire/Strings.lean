import TopicBus.Proofs.Text.Utf8
import TopicBus.Wire.Leaf

/-!
# Texts, written and read back

A text is written character by character. Of every character the reader takes exactly what was
written for it, an escape or its own octets, and collects its own octets; none of these is a
quote, a backslash or a control character, so the reader goes on until the closing quote.
-/

namespace TopicBus.Leaf

open Text (Bytes)
open Text.Utf8 (encodeChar)
open Scan (octet stringOctets)

/-- The octets that are written for a character. -/
def writeChar (c : Char) : Bytes :=
  (Json.escapeChar c).flatMap encodeChar

/-- Whether an octet stands for itself inside quotes. -/
def isPlain (b : UInt8) : Bool :=
  b != octet '"' && b != octet '\\' && !decide (b < 0x20)

/-! ## Plain octets and escapes -/

private theorem stringOctets_plain {plain : Bytes} (isPlain : ∀ b ∈ plain, isPlain b = true)
    (bound : Nat) (seen rest : Bytes) :
    stringOctets (plain.length + bound) seen (plain ++ rest) =
      stringOctets bound (plain.reverse ++ seen) rest := by
  induction plain generalizing seen with
  | nil => simp
  | cons b tail inductionHypothesis =>
      have first := isPlain b List.mem_cons_self
      simp only [Leaf.isPlain, Bool.and_eq_true, bne_iff_ne, ne_eq, Bool.not_eq_true',
        decide_eq_false_iff_not] at first
      have more : (b :: tail).length + bound = (tail.length + bound) + 1 := by
        simp only [List.length_cons]
        omega
      rw [more, List.cons_append]
      simp only [stringOctets, first.1.1, first.1.2, first.2, if_false]
      rw [inductionHypothesis fun b member => isPlain b (List.mem_cons_of_mem _ member)]
      simp

private theorem stringOctets_escape {escaped value rest after : Bytes}
    (spells : Scan.escape (escaped ++ rest) = .ok (value, after)) (bound : Nat) (seen : Bytes) :
    stringOctets (bound + 1) seen (octet '\\' :: escaped ++ rest) =
      stringOctets bound (value.reverse ++ seen) after := by
  have noQuote : octet '\\' ≠ octet '"' := by decide
  rw [List.cons_append]
  simp only [stringOctets, noQuote, if_false, if_true, spells]

private theorem isPlain_of_mem_encodeChar {c : Char} (noQuote : c ≠ '"') (noBackslash : c ≠ '\\')
    (noControl : 32 ≤ c.toNat) : ∀ b ∈ encodeChar c, isPlain b = true := by
  have plain {n : Nat} (small : n < 0x100) (large : 32 ≤ n) (noQuote : n ≠ 34)
      (noBackslash : n ≠ 92) : isPlain n.toUInt8 = true := by
    have same : n.toUInt8.toNat = n := Nat.mod_eq_of_lt small
    simp only [isPlain, Bool.and_eq_true, bne_iff_ne, ne_eq, ← UInt8.toNat_inj, same,
      Bool.not_eq_true', decide_eq_false_iff_not, UInt8.lt_iff_toNat_lt]
    exact ⟨⟨noQuote, noBackslash⟩, Nat.not_lt.mpr large⟩
  have number {d : Char} (different : c ≠ d) : c.toNat ≠ d.toNat := by
    intro same
    exact different (Char.toNat_inj.mp same)
  have quote : c.toNat ≠ 34 := number noQuote
  have backslash : c.toNat ≠ 92 := number noBackslash
  have range : c.toNat < 0xD800 ∨ 0xDFFF < c.toNat ∧ c.toNat < 0x110000 := c.valid
  intro b member
  unfold encodeChar at member
  simp only at member
  split at member
  · cases List.mem_singleton.mp member
    exact plain (by omega) noControl quote backslash
  · split at member
    · simp only [List.mem_cons, List.not_mem_nil, or_false] at member
      rcases member with rfl | rfl
      · exact plain (by omega) (by omega) (by omega) (by omega)
      · exact plain (by omega) (by omega) (by omega) (by omega)
    · split at member
      · simp only [List.mem_cons, List.not_mem_nil, or_false] at member
        rcases member with rfl | rfl | rfl
        · exact plain (by omega) (by omega) (by omega) (by omega)
        · exact plain (by omega) (by omega) (by omega) (by omega)
        · exact plain (by omega) (by omega) (by omega) (by omega)
      · simp only [List.mem_cons, List.not_mem_nil, or_false] at member
        rcases member with rfl | rfl | rfl | rfl
        · exact plain (by omega) (by omega) (by omega) (by omega)
        · exact plain (by omega) (by omega) (by omega) (by omega)
        · exact plain (by omega) (by omega) (by omega) (by omega)
        · exact plain (by omega) (by omega) (by omega) (by omega)

/-! ## Characters -/

/-- A control character is escaped by its number in four hexadecimal digits, which spell it. -/
private theorem escape_control {c : Char} (control : c.toNat < 32) (rest : Bytes) :
    Scan.escape ((['u', '0', '0', Json.hexDigit (c.toNat / 16),
      Json.hexDigit (c.toNat % 16)].flatMap encodeChar) ++ rest) = .ok (encodeChar c, rest) := by
  have digits : ∀ n < 16, ∃ b, encodeChar (Json.hexDigit n) = [b] ∧ Scan.hexValue? b = some n := by
    intro n small
    have all : ∀ n < 16, encodeChar (Json.hexDigit n) = [octet (Json.hexDigit n)] ∧
        Scan.hexValue? (octet (Json.hexDigit n)) = some n := by
      decide
    exact ⟨_, all n small⟩
  obtain ⟨upper, upperOctet, upperValue⟩ := digits (c.toNat / 16) (by omega)
  obtain ⟨lower, lowerOctet, lowerValue⟩ := digits (c.toNat % 16) (by omega)
  have letter : encodeChar 'u' = [octet 'u'] := by decide
  have zero : encodeChar '0' = [octet '0'] := by decide
  have zeroValue : Scan.hexValue? (octet '0') = some 0 := by decide
  have joined : ((0 * 16 + 0) * 16 + c.toNat / 16) * 16 + c.toNat % 16 = c.toNat := by omega
  have unit : Scan.codeUnit (octet '0' :: octet '0' :: upper :: lower :: rest) =
      .ok (c.toNat, rest) := by
    simp only [Scan.codeUnit, Scan.hexFour?, zeroValue, upperValue, lowerValue, bind, pure,
      Option.bind_some, joined]
  have spelled : Scan.unicodeEscape (octet '0' :: octet '0' :: upper :: lower :: rest) =
      .ok (encodeChar c, rest) := by
    have noTrailing : ¬(0xDC00 ≤ c.toNat ∧ c.toNat ≤ 0xDFFF) := by omega
    have noLeading : ¬(0xD800 ≤ c.toNat ∧ c.toNat ≤ 0xDBFF) := by omega
    simp only [Scan.unicodeEscape, unit, bind, Except.bind, noTrailing, noLeading, if_false,
      Char.ofNat_toNat]
  simpa [letter, zero, upperOctet, lowerOctet, Scan.escape] using spelled

/-- What is written for a character stands for itself, or it is an escape that spells the
character. -/
private theorem writeChar_cases (c : Char) :
    (writeChar c = encodeChar c ∧ ∀ b ∈ encodeChar c, isPlain b = true) ∨
      ∃ escaped, writeChar c = octet '\\' :: escaped ∧
        ∀ rest, Scan.escape (escaped ++ rest) = .ok (encodeChar c, rest) := by
  have number {n : Nat} (same : c.toNat = n) : c = Char.ofNat n := by
    rw [← same, Char.ofNat_toNat]
  unfold writeChar Json.escapeChar
  by_cases quote : c = '"'
  · subst quote
    exact .inr ⟨[octet '"'], by decide, fun rest => rfl⟩
  · by_cases backslash : c = '\\'
    · subst backslash
      exact .inr ⟨[octet '\\'], by decide, fun rest => rfl⟩
    · by_cases lineFeed : c = '\n'
      · subst lineFeed
        exact .inr ⟨[octet 'n'], by decide, fun rest => rfl⟩
      · by_cases carriageReturn : c = '\r'
        · subst carriageReturn
          exact .inr ⟨[octet 'r'], by decide, fun rest => rfl⟩
        · by_cases tab : c = '\t'
          · subst tab
            exact .inr ⟨[octet 't'], by decide, fun rest => rfl⟩
          · by_cases backspace : c.toNat = 8
            · rw [number backspace]
              exact .inr ⟨[octet 'b'], by decide, fun rest => rfl⟩
            · by_cases formFeed : c.toNat = 12
              · rw [number formFeed]
                exact .inr ⟨[octet 'f'], by decide, fun rest => rfl⟩
              · simp only [quote, backslash, lineFeed, carriageReturn, tab, backspace, formFeed,
                  if_false]
                by_cases control : c.toNat < 32
                · refine .inr ⟨_, ?_, fun rest => escape_control control rest⟩
                  have start : encodeChar '\\' = [octet '\\'] := by decide
                  simp [control, start]
                · refine .inl ⟨by simp [control], ?_⟩
                  exact isPlain_of_mem_encodeChar quote backslash (by omega)

/-- The reader takes what was written for a character and collects its octets. -/
private theorem stringOctets_writeChar (c : Char) (bound : Nat) (seen rest : Bytes)
    (enough : (writeChar c).length ≤ bound) :
    ∃ left, bound ≤ left + (writeChar c).length ∧
      stringOctets bound seen (writeChar c ++ rest) =
        stringOctets left ((encodeChar c).reverse ++ seen) rest := by
  -- A plain character costs one of the bound for every octet, an escape only one for all of them.
  rcases writeChar_cases c with ⟨same, plain⟩ | ⟨escaped, shape, spells⟩
  · rw [same] at enough ⊢
    obtain ⟨left, rfl⟩ := Nat.exists_eq_add_of_le enough
    refine ⟨left, by omega, ?_⟩
    exact stringOctets_plain plain left seen rest
  · rw [shape] at enough ⊢
    simp only [List.length_cons] at enough ⊢
    obtain ⟨left, rfl⟩ : ∃ left, bound = left + 1 := ⟨bound - 1, by omega⟩
    refine ⟨left, by omega, ?_⟩
    exact stringOctets_escape (spells rest) left seen

/-! ## Texts -/

private theorem stringOctets_flatMap (cs : List Char) (bound : Nat) (seen rest : Bytes)
    (enough : (cs.flatMap writeChar).length < bound) :
    stringOctets bound seen (cs.flatMap writeChar ++ octet '"' :: rest) =
      .ok (seen.reverse ++ cs.flatMap encodeChar, rest) := by
  induction cs generalizing bound seen with
  | nil =>
      obtain ⟨left, rfl⟩ : ∃ left, bound = left + 1 := ⟨bound - 1, by omega⟩
      simp [stringOctets]
  | cons c tail inductionHypothesis =>
      simp only [List.flatMap_cons, List.length_append] at enough
      obtain ⟨left, spent, step⟩ := stringOctets_writeChar c bound seen
        (tail.flatMap writeChar ++ octet '"' :: rest) (by omega)
      rw [List.flatMap_cons, List.append_assoc, step, inductionHypothesis left _ (by omega)]
      simp

/-- The text after an opening quote is read back, whatever follows the closing quote. -/
theorem string_written (s : String) (rest : Bytes) :
    Scan.string (s.toList.flatMap writeChar ++ octet '"' :: rest) = .ok (s, rest) := by
  have taken := stringOctets_flatMap s.toList
    ((s.toList.flatMap writeChar ++ octet '"' :: rest).length + 1) [] rest (by
      simp only [List.length_append]
      omega)
  have decoded : Text.Utf8.decode? (s.toList.flatMap encodeChar) = some s :=
    Text.Utf8.decode?_encode s
  simp only [Scan.string, taken, List.reverse_nil, List.nil_append, decoded]

theorem writeText_eq (s : String) :
    writeText s = octet '"' :: (s.toList.flatMap writeChar ++ [octet '"']) :=
  rfl

theorem readText_writeText (s : String) (rest : Bytes) :
    readText (writeText s ++ rest) = .ok (s, rest) := by
  have solid : Scan.isSpace (octet '"') = false := by decide
  have read := string_written s rest
  simp only [writeText_eq, List.cons_append, List.append_assoc, List.nil_append, readText,
    Scan.skipSpace, List.dropWhile_cons, solid, Bool.false_eq_true, if_false, if_true, read]

end TopicBus.Leaf
