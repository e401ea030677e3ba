import Mathlib.Data.List.Induction
import Mathlib.Data.Nat.Digits.Defs
import TopicBus.Decimal.Natural

/-!
# Numerals and the numbers they spell

A run of digits spells the number that has these digits in base ten, zeros in front included.
Reading a run of digits gives the number that it spells, and the numeral that a number is
written with spells that number.
-/

namespace TopicBus.Decimal

/-- Whether characters are one or more digits, the most significant first, of a number in base
ten. -/
structure Spells (run : List Char) (n : Nat) : Prop where
  nonempty : run ≠ []
  digits : ∀ c ∈ run, isDigit c = true
  value : Nat.ofDigits 10 (run.reverse.map digitValue) = n

theorem valueOf_append (run : List Char) (c : Char) :
    valueOf (run ++ [c]) = 10 * valueOf run + digitValue c := by
  simp only [valueOf, List.foldl_append, List.foldl_cons, List.foldl_nil]

/-- Digits that are taken in one after another make up the number that has them in base ten. -/
theorem valueOf_eq_ofDigits (run : List Char) :
    valueOf run = Nat.ofDigits 10 (run.reverse.map digitValue) := by
  induction run using List.reverseRecOn with
  | nil => rfl
  | append_singleton run c inductionHypothesis =>
      rw [valueOf_append, inductionHypothesis, List.reverse_append, List.reverse_singleton,
        List.singleton_append, List.map_cons, Nat.ofDigits_cons, Nat.add_comm]

theorem value?_eq_some_iff {run : List Char} {n : Nat} : value? run = some n ↔ Spells run n := by
  unfold value?
  constructor
  · intro read
    split at read
    · rename_i isRun
      simp only [Bool.and_eq_true, Bool.not_eq_true', List.isEmpty_eq_false_iff, List.all_eq_true]
        at isRun
      refine ⟨isRun.1, isRun.2, ?_⟩
      rw [← valueOf_eq_ofDigits]
      exact Option.some.inj read
    · cases read
  · rintro ⟨nonempty, digits, rfl⟩
    rw [if_pos (by simpa [nonempty] using digits), valueOf_eq_ofDigits]

/-! ## The numeral of a number -/

theorem isDigit_digit {n : Nat} (small : n < 10) :
    isDigit (digit n) = true ∧ digitValue (digit n) = n := by
  have all : ∀ n < 10, isDigit (digit n) = true ∧ digitValue (digit n) = n := by decide
  exact all n small

theorem spells_digits (n : Nat) : Spells (digits n) n := by
  rw [← value?_eq_some_iff]
  induction n using Nat.strongRecOn with
  | ind n inductionHypothesis =>
      rw [digits]
      by_cases small : n < 10
      · obtain ⟨isDigit, value⟩ := isDigit_digit small
        rw [if_pos small, value?_eq_some_iff]
        refine ⟨List.cons_ne_nil _ _, by simpa using isDigit, ?_⟩
        simpa using value
      · have last := isDigit_digit (Nat.mod_lt n (by decide : 0 < 10))
        obtain ⟨nonempty, front, value⟩ :=
          value?_eq_some_iff.mp (inductionHypothesis (n / 10) (by omega))
        rw [if_neg small, value?_eq_some_iff]
        refine ⟨by simp, ?_, ?_⟩
        · intro c member
          rcases List.mem_append.mp member with inFront | isLast
          · exact front c inFront
          · rw [List.mem_singleton.mp isLast]
            exact last.1
        · rw [← valueOf_eq_ofDigits] at value ⊢
          rw [valueOf_append, value, last.2]
          omega

/-! ## Limits and signs -/

/-- No digit is a plus sign. -/
theorem Spells.head_ne_plus {run rest : List Char} {n : Nat} (spells : Spells run n) :
    run ≠ '+' :: rest := by
  rintro rfl
  have plus := spells.digits '+' List.mem_cons_self
  revert plus
  decide

/-- What is read is a number below the limit, in digits that may have one plus sign in front of
them. -/
theorem readBelow_eq_some_iff {limit n : Nat} {cs : List Char} :
    readBelow limit cs = some n ↔
      n < limit ∧ ∃ sign run, (sign = [] ∨ sign = ['+']) ∧ cs = sign ++ run ∧ Spells run n := by
  have unsigned {run : List Char} :
      (value? run).filter (· < limit) = some n ↔ n < limit ∧ Spells run n := by
    rw [Option.filter_eq_some_iff, value?_eq_some_iff, decide_eq_true_eq, and_comm]
  unfold readBelow
  split
  · rename_i rest
    rw [unsigned]
    refine and_congr_right fun _ => ⟨fun spells => ⟨['+'], rest, .inr rfl, rfl, spells⟩, ?_⟩
    rintro ⟨sign, run, rfl | rfl, shape, spells⟩
    · exact absurd shape.symm spells.head_ne_plus
    · cases shape
      exact spells
  · rename_i signless
    rw [unsigned]
    refine and_congr_right fun _ => ⟨fun spells => ⟨[], cs, .inl rfl, rfl, spells⟩, ?_⟩
    rintro ⟨sign, run, rfl | rfl, rfl, spells⟩
    · exact spells
    · exact absurd rfl (signless run)

end TopicBus.Decimal
