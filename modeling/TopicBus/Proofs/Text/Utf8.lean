import TopicBus.Text.Utf8

/-!
# Reading back what was written

The scan takes from the octets of a text one character after another, whatever follows. So the
octets of a text are read back as that text, and strictly as well as leniently: there is no gap
in them that would have to be filled.
-/

namespace TopicBus.Text.Utf8

/-! ## Single characters -/

private theorem scalar_range (c : Char) :
    c.toNat < 0xD800 ∨ 0xDFFF < c.toNat ∧ c.toNat < 0x110000 :=
  c.valid

@[simp]
private theorem toNat_toUInt8 (n : Nat) : n.toUInt8.toNat = n % 0x100 :=
  rfl

private theorem lead?_of_two (n : Nat) (low : 0x80 ≤ n) (high : n < 0x800) :
    lead? (0xC0 + n / 0x40) = some ⟨n / 0x40, 0x80, 0xBF, 0⟩ := by
  unfold lead?
  rw [if_pos (by omega)]
  simp

/-- The first of three octets announces the upper bits, and the second one is in its range. -/
private theorem lead?_of_three (n : Nat) (low : 0x800 ≤ n) (high : n < 0x10000)
    (noSurrogate : n < 0xD800 ∨ 0xDFFF < n) :
    ∃ least greatest, lead? (0xE0 + n / 0x1000) = some ⟨n / 0x1000, least, greatest, 1⟩ ∧
      least ≤ 0x80 + n / 0x40 % 0x40 ∧ 0x80 + n / 0x40 % 0x40 ≤ greatest := by
  unfold lead?
  rw [if_neg (by omega)]
  by_cases first : n / 0x1000 = 0
  · exact ⟨0xA0, 0xBF, by simp [first], by omega, by omega⟩
  · by_cases gap : n / 0x1000 = 0xD
    · exact ⟨0x80, 0x9F, by simp [gap], by omega, by omega⟩
    · refine ⟨0x80, 0xBF, ?_, by omega, by omega⟩
      rw [if_neg (by omega), if_neg (by omega), if_pos (by omega)]
      simp

private theorem lead?_of_four (n : Nat) (low : 0x10000 ≤ n) (high : n < 0x110000) :
    ∃ least greatest, lead? (0xF0 + n / 0x40000) = some ⟨n / 0x40000, least, greatest, 2⟩ ∧
      least ≤ 0x80 + n / 0x1000 % 0x40 ∧ 0x80 + n / 0x1000 % 0x40 ≤ greatest := by
  unfold lead?
  rw [if_neg (by omega), if_neg (by omega), if_neg (by omega), if_neg (by omega)]
  by_cases first : n / 0x40000 = 0
  · exact ⟨0x90, 0xBF, by simp [first], by omega, by omega⟩
  · by_cases last : n / 0x40000 = 4
    · exact ⟨0x80, 0x8F, by simp [last], by omega, by omega⟩
    · refine ⟨0x80, 0xBF, ?_, by omega, by omega⟩
      rw [if_neg (by omega), if_neg (by omega), if_pos (by omega)]
      simp

private theorem continued_succ {more bits six : Nat} (small : six < 0x40) (rest : Bytes) :
    continued (more + 1) bits ((0x80 + six).toUInt8 :: rest) =
      continued more (bits * 0x40 + six) rest := by
  have octet : (0x80 + six) % 0x100 = 0x80 + six := by omega
  simp only [continued, toNat_toUInt8, octet]
  rw [if_pos (by omega), Nat.add_sub_cancel_left]

private theorem next_of_lead {first six least greatest more bits : Nat} {rest : Bytes}
    (large : 0x80 ≤ first) (octet : first < 0x100) (small : six < 0x40)
    (announced : lead? first = some ⟨bits, least, greatest, more⟩)
    (above : least ≤ 0x80 + six) (below : 0x80 + six ≤ greatest) :
    next first.toUInt8 ((0x80 + six).toUInt8 :: rest) =
      ((continued more (bits * 0x40 + six) rest).1.map Char.ofNat,
        (continued more (bits * 0x40 + six) rest).2) := by
  have same : first % 0x100 = first := by omega
  have second : (0x80 + six) % 0x100 = 0x80 + six := by omega
  unfold next
  simp only [toNat_toUInt8, same, announced, second]
  rw [if_neg (by omega), if_pos ⟨above, below⟩, Nat.add_sub_cancel_left]

/-- A character has octets, and from them it is taken back, whatever follows. -/
theorem next_encodeChar (c : Char) :
    ∃ first tail, encodeChar c = first :: tail ∧
      ∀ rest, next first (tail ++ rest) = (some c, rest) := by
  have range := scalar_range c
  have back : Char.ofNat c.toNat = c := Char.ofNat_toNat c
  unfold encodeChar
  generalize c.toNat = n at range back ⊢
  -- One case for each number of octets; in each the parts of the number are put together again.
  by_cases one : n < 0x80
  · simp only [one, if_true]
    refine ⟨_, _, rfl, fun rest => ?_⟩
    have same : n % 0x100 = n := by omega
    simp [next, same, one, back]
  · by_cases two : n < 0x800
    · simp only [one, two, if_true, if_false]
      refine ⟨_, _, rfl, fun rest => ?_⟩
      have joined : n / 0x40 * 0x40 + n % 0x40 = n := by omega
      rw [List.cons_append, next_of_lead (by omega) (by omega) (by omega)
        (lead?_of_two n (by omega) two) (by omega) (by omega)]
      simp [continued, joined, back]
    · by_cases three : n < 0x10000
      · simp only [one, two, three, if_true, if_false]
        refine ⟨_, _, rfl, fun rest => ?_⟩
        obtain ⟨least, greatest, announced, above, below⟩ :=
          lead?_of_three n (by omega) three (by omega)
        have joined : (n / 0x1000 * 0x40 + n / 0x40 % 0x40) * 0x40 + n % 0x40 = n := by omega
        rw [List.cons_append, next_of_lead (by omega) (by omega) (by omega) announced above below,
          List.cons_append, continued_succ (by omega), joined]
        simp [continued, back]
      · simp only [one, two, three, if_false]
        refine ⟨_, _, rfl, fun rest => ?_⟩
        obtain ⟨least, greatest, announced, above, below⟩ :=
          lead?_of_four n (by omega) (by omega)
        have joined : ((n / 0x40000 * 0x40 + n / 0x1000 % 0x40) * 0x40 + n / 0x40 % 0x40) * 0x40 +
            n % 0x40 = n := by omega
        rw [List.cons_append, next_of_lead (by omega) (by omega) (by omega) announced above below,
          List.cons_append, continued_succ (by omega), List.cons_append, continued_succ (by omega),
          joined]
        simp [continued, back]

/-! ## Texts -/

private theorem scanInto_flatMap (cs : List Char) (seen : List (Option Char)) :
    scanInto seen (cs.flatMap encodeChar) = seen.reverse ++ cs.map some := by
  induction cs generalizing seen with
  | nil => simp [scanInto]
  | cons c rest inductionHypothesis =>
      obtain ⟨first, tail, octets, taken⟩ := next_encodeChar c
      rw [List.flatMap_cons, octets, List.cons_append, scanInto, taken, inductionHypothesis]
      simp

theorem scan_encode (s : String) : scan (encode s) = s.toList.map some := by
  simp [scan, encode, scanInto_flatMap]

/-- The octets of a text are well-formed and spell the text. -/
@[simp]
theorem decode?_encode (s : String) : decode? (encode s) = some s := by
  simp [decode?, scan_encode, List.filterMap_map, Function.comp_def]

/-- The octets of a text spell the text, also if gaps would be filled. -/
@[simp]
theorem decodeLenient_encode (s : String) : decodeLenient (encode s) = s := by
  simp [decodeLenient, scan_encode, Function.comp_def]

end TopicBus.Text.Utf8
