import TopicBus.Proofs.Wire.Values

/-!
# Plain values, cut short

Readers go from left to right and look no further than they have to. So what is read from the
front of octets that can be read is what is read from all of them, unless the front ends before;
then it is found to be cut short, and nothing else is wrong with it. Only a whole number may be
cut between two digits, and is then a smaller number at the very end of the octets.
-/

namespace TopicBus

open Text (Bytes)
open Scan (octet)

/-! ## Torn octets -/

/-- A front part of octets, but not all of them. -/
def Text.IsTorn (front whole : Bytes) : Prop :=
  front <+: whole ∧ front ≠ whole

namespace Text

variable {b : UInt8} {front first second rest : Bytes}

theorem IsTorn.exists_lost (torn : IsTorn front rest) :
    ∃ lost, lost ≠ [] ∧ rest = front ++ lost := by
  obtain ⟨⟨lost, rfl⟩, part⟩ := torn
  refine ⟨lost, ?_, rfl⟩
  rintro rfl
  exact part (List.append_nil front).symm

theorem not_isTorn_nil : ¬ IsTorn front [] := by
  rintro ⟨before, part⟩
  exact part (List.prefix_nil.mp before)

theorem IsTorn.cons_cases (torn : IsTorn front (b :: rest)) :
    front = [] ∨ ∃ left, front = b :: left ∧ IsTorn left rest := by
  obtain ⟨before, part⟩ := torn
  rcases List.prefix_cons_iff.mp before with empty | ⟨left, rfl, further⟩
  · exact .inl empty
  · exact .inr ⟨left, rfl, further, fun same => part (same ▸ rfl)⟩

/-- Only the empty front of a single octet is torn. -/
theorem IsTorn.eq_nil (torn : IsTorn front [b]) : front = [] := by
  rcases torn.cons_cases with empty | ⟨left, _, nothing⟩
  · exact empty
  · exact absurd nothing not_isTorn_nil

theorem IsTorn.append_cases (torn : IsTorn front (first ++ second)) :
    IsTorn front first ∨ ∃ left, front = first ++ left ∧ IsTorn left second := by
  induction first generalizing front with
  | nil => exact .inr ⟨front, rfl, torn⟩
  | cons b first inductionHypothesis =>
      rcases torn.cons_cases with rfl | ⟨left, rfl, further⟩
      · exact .inl ⟨List.nil_prefix, (List.cons_ne_nil b first).symm⟩
      · rcases inductionHypothesis further with ⟨before, part⟩ | ⟨more, rfl, rest⟩
        · refine .inl ⟨List.prefix_cons_inj b |>.mpr before, ?_⟩
          exact fun same => part (List.cons.inj same).2
        · exact .inr ⟨more, rfl, rest⟩

end Text

open Text (IsTorn)

namespace Scan

variable {α : Type} {front back rest : Bytes}

/-! ## Reading the front -/

/--
The outcome of reading the front of octets that yield a value and leave a rest: it is the same,
and the rest reaches as far as the front, or the front is found to be cut short.
-/
def IsFront (back : Bytes) (outcome : Except Flaw (α × Bytes)) (value : α) (rest : Bytes) : Prop :=
  outcome = .error .truncated ∨ ∃ left, rest = left ++ back ∧ outcome = .ok (value, left)

/-- If the whole is read to its end, its front is too short. -/
theorem IsFront.truncated {outcome : Except Flaw (α × Bytes)} {value : α}
    (isFront : IsFront back outcome value []) (lost : back ≠ []) : outcome = .error .truncated := by
  rcases isFront with short | ⟨left, none, _⟩
  · exact short
  · exact absurd (List.append_eq_nil_iff.mp none.symm).2 lost

private theorem codeUnit_bind_isFront {next : Nat × Bytes → Except Flaw (α × Bytes)} {value : α}
    (further : ∀ unit left, next (unit, left ++ back) = .ok (value, rest) →
      IsFront back (next (unit, left)) value rest)
    (read : codeUnit (front ++ back) >>= next = .ok (value, rest)) :
    IsFront back (codeUnit front >>= next) value rest := by
  rcases front with _ | ⟨a, _ | ⟨b, _ | ⟨c, _ | ⟨d, front⟩⟩⟩⟩
  · exact .inl rfl
  · exact .inl rfl
  · exact .inl rfl
  · exact .inl rfl
  · simp only [List.cons_append, codeUnit] at read ⊢
    cases digits : hexFour? a b c d with
    | none =>
        rw [digits] at read
        cases read
    | some unit =>
        rw [digits] at read
        exact further unit front read

private theorem exactly_bind_isFront {expected : UInt8} {next : Bytes → Except Flaw (α × Bytes)}
    {value : α}
    (further : ∀ left, next (left ++ back) = .ok (value, rest) →
      IsFront back (next left) value rest)
    (read : exactly expected (front ++ back) >>= next = .ok (value, rest)) :
    IsFront back (exactly expected front >>= next) value rest := by
  cases front with
  | nil => exact .inl rfl
  | cons b front =>
      simp only [List.cons_append, exactly] at read ⊢
      by_cases same : b = expected
      · simp only [same, if_true] at read ⊢
        exact further front read
      · simp only [same, if_false] at read
        cases read

theorem unicodeEscape_isFront {value : Bytes}
    (read : unicodeEscape (front ++ back) = .ok (value, rest)) :
    IsFront back (unicodeEscape front) value rest := by
  unfold unicodeEscape at read ⊢
  refine codeUnit_bind_isFront (fun unit left read => ?_) read
  dsimp only at read ⊢
  by_cases trailing : 0xDC00 ≤ unit ∧ unit ≤ 0xDFFF
  · rw [if_pos trailing] at read
    cases read
  · rw [if_neg trailing] at read ⊢
    by_cases leading : 0xD800 ≤ unit ∧ unit ≤ 0xDBFF
    · rw [if_pos leading] at read ⊢
      refine exactly_bind_isFront (fun left read => ?_) read
      refine exactly_bind_isFront (fun left read => ?_) read
      refine codeUnit_bind_isFront (fun second left read => ?_) read
      dsimp only at read ⊢
      by_cases pair : 0xDC00 ≤ second ∧ second ≤ 0xDFFF
      · rw [if_pos pair] at read ⊢
        obtain ⟨rfl, rfl⟩ := Prod.mk.inj (Except.ok.inj read)
        exact .inr ⟨left, rfl, rfl⟩
      · rw [if_neg pair] at read
        cases read
    · rw [if_neg leading] at read ⊢
      cases read
      exact .inr ⟨left, rfl, rfl⟩

theorem escape_isFront {value : Bytes} (read : escape (front ++ back) = .ok (value, rest)) :
    IsFront back (escape front) value rest := by
  cases front with
  | nil => exact .inl rfl
  | cons b front =>
      simp only [List.cons_append, escape] at read ⊢
      by_cases hexadecimal : b = octet 'u'
      · simp only [hexadecimal, if_true] at read ⊢
        exact unicodeEscape_isFront read
      · simp only [hexadecimal, if_false] at read ⊢
        cases spelled : escaped? b with
        | none =>
            rw [spelled] at read
            cases read
        | some value =>
            rw [spelled] at read
            cases read
            exact .inr ⟨front, rfl, rfl⟩

theorem stringOctets_isFront {most : Nat} {seen octets : Bytes}
    (read : stringOctets most seen (front ++ back) = .ok (octets, rest)) (bound : Nat) :
    IsFront back (stringOctets bound seen front) octets rest := by
  -- With a bound that is too small for the front it is found to be cut short as well.
  induction bound generalizing most seen front with
  | zero => exact .inl rfl
  | succ bound inductionHypothesis =>
      cases front with
      | nil => exact .inl rfl
      | cons b front =>
          cases most with
          | zero => cases read
          | succ most =>
              simp only [List.cons_append, stringOctets] at read ⊢
              by_cases quote : b = octet '"'
              · simp only [quote, if_true] at read ⊢
                cases read
                exact .inr ⟨front, rfl, rfl⟩
              · by_cases backslash : b = octet '\\'
                · simp only [backslash, if_true] at read ⊢
                  cases spelled : escape (front ++ back) with
                  | error flaw =>
                      rw [spelled] at read
                      cases read
                  | ok taken =>
                      obtain ⟨value, after⟩ := taken
                      rw [spelled] at read
                      rcases escape_isFront spelled with short | ⟨left, rfl, same⟩
                      · rw [short]
                        exact .inl rfl
                      · rw [same]
                        exact inductionHypothesis read
                · by_cases control : b < 0x20
                  · simp only [quote, backslash, control, if_true, if_false] at read
                    cases read
                  · simp only [quote, backslash, control, if_false] at read ⊢
                    exact inductionHypothesis read

theorem string_isFront {s : String} (read : Scan.string (front ++ back) = .ok (s, rest)) :
    IsFront back (Scan.string front) s rest := by
  unfold Scan.string at read ⊢
  split at read
  · cases read
  · rename_i octets after taken
    split at read
    · rename_i value decoded
      cases read
      rcases stringOctets_isFront taken (front.length + 1) with short | ⟨left, shape, same⟩
      · rw [short]
        exact .inl rfl
      · rw [same]
        simp only [decoded]
        exact .inr ⟨left, shape, rfl⟩
    · cases read

theorem word_of_isTorn {expected : Bytes} (torn : IsTorn front expected) :
    word expected front = .error .truncated := by
  induction expected generalizing front with
  | nil => exact absurd torn Text.not_isTorn_nil
  | cons b more inductionHypothesis =>
      rcases torn.cons_cases with rfl | ⟨left, rfl, inside⟩
      · rfl
      · simp only [word, if_true, inductionHypothesis inside]

/-- Of a string that is read to its end, every front part is cut short. -/
theorem string_of_isTorn {s : String} {octets : Bytes} (read : Scan.string octets = .ok (s, []))
    (torn : IsTorn front octets) : Scan.string front = .error .truncated := by
  obtain ⟨lost, nonempty, rfl⟩ := torn.exists_lost
  exact (string_isFront read).truncated nonempty

/-- Reading comes to the end of the octets: a value ends just there, or they are found to be cut
short. -/
def ReachesEnd (outcome : Except Flaw (α × Bytes)) : Prop :=
  outcome = .error .truncated ∨ ∃ value, outcome = .ok (value, [])

end Scan

namespace Leaf

variable {front : Bytes}

/-! ## Values that show where they end -/

theorem readText_of_isTorn (s : String) (torn : IsTorn front (writeText s)) :
    readText front = .error .truncated := by
  have solid : Scan.isSpace (octet '"') = false := by decide
  rcases torn.cons_cases with rfl | ⟨left, rfl, inside⟩
  · rfl
  · simp only [readText, Scan.skipSpace_cons solid, if_true]
    exact Scan.string_of_isTorn (string_written s []) inside

private theorem readNull_of_isTorn (torn : IsTorn front (Scan.letters "null")) :
    readNull front = .error .truncated := by
  have letters : Scan.letters "null" = octet 'n' :: Scan.letters "ull" := rfl
  have solid : Scan.isSpace (octet 'n') = false := by decide
  rw [letters] at torn
  rcases torn.cons_cases with rfl | ⟨left, rfl, inside⟩
  · rfl
  · simp only [readNull, Scan.skipSpace_cons solid, if_true, Scan.word_of_isTorn inside]
    rfl

private theorem readTexts_of_last (item : String)
    (last : IsTorn front (writeText item) ∨ front = writeText item)
    (bound : Nat) (seen : List String) : readTexts bound seen front = .error .truncated := by
  cases bound with
  | zero => rfl
  | succ bound =>
      rcases last with torn | rfl
      · simp only [readTexts, readText_of_isTorn item torn]
      · have whole := readText_writeText item []
        rw [List.append_nil] at whole
        simp only [readTexts, whole]
        rfl

private theorem readTexts_of_isTorn (item : String) (others : List String) (bound : Nat)
    (seen : List String)
    (torn : IsTorn front (writeText item ++
      (((others.map writeText).flatMap fun other => octet ',' :: other) ++ [octet ']']))) :
    readTexts bound seen front = .error .truncated := by
  have comma : Scan.isSpace (octet ',') = false := by decide
  have quote : Scan.isSpace (octet '"') = false := by decide
  have different : octet '"' ≠ octet ']' := by decide
  induction others generalizing item bound seen front with
  | nil =>
      rcases torn.append_cases with inside | ⟨left, rfl, behind⟩
      · exact readTexts_of_last item (.inl inside) bound seen
      · obtain rfl : left = [] := behind.eq_nil
        exact readTexts_of_last item (.inr (List.append_nil _)) bound seen
  | cons next more inductionHypothesis =>
      rcases torn.append_cases with inside | ⟨left, rfl, behind⟩
      · exact readTexts_of_last item (.inl inside) bound seen
      · rw [List.map_cons, List.flatMap_cons, List.append_assoc, List.cons_append] at behind
        rcases behind.cons_cases with rfl | ⟨left, rfl, further⟩
        · exact readTexts_of_last item (.inr (List.append_nil _)) bound seen
        · cases bound with
          | zero => rfl
          | succ bound =>
              simp only [readTexts, readText_writeText, Scan.skipSpace_cons comma, if_true]
              rcases further.cons_cases with rfl | ⟨tail, rfl, _⟩
              · rfl
              · simp only [Scan.skipSpace_cons quote, different, if_false]
                exact inductionHypothesis next bound (item :: seen) further

private theorem read_texts_of_isTorn (items : List String)
    (torn : IsTorn front (octet '[' :: separated (items.map writeText) ++ [octet ']'])) :
    Leaf.texts.read front = .error .truncated := by
  have opening : Scan.isSpace (octet '[') = false := by decide
  have quote : Scan.isSpace (octet '"') = false := by decide
  have different : octet '"' ≠ octet ']' := by decide
  rw [List.cons_append] at torn
  rcases torn.cons_cases with rfl | ⟨left, rfl, inside⟩
  · rfl
  · simp only [read, Scan.skipSpace_cons opening, if_true]
    cases items with
    | nil =>
        obtain rfl : left = [] := inside.eq_nil
        rfl
    | cons item others =>
        rw [List.map_cons, separated_cons, List.append_assoc] at inside
        rcases inside.cons_cases with rfl | ⟨tail, rfl, _⟩
        · rfl
        · simp only [Scan.skipSpace_cons quote, different, if_false]
          exact readTexts_of_isTorn item others _ [] inside

/-- Of what is written for a value that shows where it ends, every front part is cut short. -/
theorem read_of_isTorn {leaf : Leaf} (delimited : leaf.IsDelimited) {value : leaf.Val}
    {bytes : Bytes} (written : leaf.write value = .ok bytes) (torn : IsTorn front bytes) :
    leaf.read front = .error .truncated := by
  cases leaf with
  | text =>
      cases written
      exact readText_of_isTorn value torn
  | unit =>
      cases written
      exact readNull_of_isTorn torn
  | texts =>
      cases written
      exact read_texts_of_isTorn value torn
  | pairs =>
      cases value with
      | nil =>
          cases written
          rcases torn.cons_cases with rfl | ⟨left, rfl, inside⟩
          · rfl
          · obtain rfl : left = [] := inside.eq_nil
            rfl
      | cons entry entries => cases written
  | word32 | word64 | optionalInteger | real => exact delimited.elim

/-! ## Words -/

/-- A whole number that is cut between its digits is a smaller one. -/
private theorem readNumber_of_isTorn {α : Type} {fit : Number → Option α} {n : Nat}
    (within : n ≤ Scan.maxWord) (placed : ∀ m ≤ n, (fit (.natural m)).isSome)
    (torn : IsTorn front (writeNatural n)) : Scan.ReachesEnd (readNumber fit front) := by
  by_cases empty : front = []
  · subst empty
    exact .inl rfl
  · obtain ⟨m, less, rfl⟩ := eq_writeNatural_of_prefix torn.1 empty
    obtain ⟨value, fits⟩ := Option.isSome_iff_exists.mp (placed m less)
    have read := readNumber_writeNatural (Nat.le_trans less within) fits Scan.endsNumber_nil
    rw [List.append_nil] at read
    exact .inr ⟨value, read⟩

/-- Of what is written for a value, doubles apart, nothing but the end is found in a front part. -/
theorem reachesEnd_of_isTorn {leaf : Leaf} (notReal : leaf ≠ .real)
    (notOptional : leaf ≠ .optionalInteger) {value : leaf.Val} {bytes : Bytes}
    (written : leaf.write value = .ok bytes) (torn : IsTorn front bytes) :
    Scan.ReachesEnd (leaf.read front) := by
  cases leaf with
  | word32 =>
      cases written
      have small : value.toNat < UInt32.size := value.toNat_lt_size
      have within : value.toNat ≤ Scan.maxWord := Nat.le_trans (Nat.le_of_lt small) (by decide)
      refine readNumber_of_isTorn within (fun m less => ?_) torn
      simp [word32?, Nat.lt_of_le_of_lt less small]
  | word64 =>
      cases written
      have small : value.toNat < UInt64.size := value.toNat_lt_size
      refine readNumber_of_isTorn (Nat.le_pred_of_lt small) (fun m less => ?_) torn
      simp [word64?, Nat.lt_of_le_of_lt less small]
  | real => exact absurd rfl notReal
  | optionalInteger => exact absurd rfl notOptional
  | text | unit | texts | pairs => exact .inl (read_of_isTorn (by trivial) written torn)

end Leaf

end TopicBus
