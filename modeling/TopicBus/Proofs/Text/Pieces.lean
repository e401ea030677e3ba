import Mathlib.Data.List.DropRight
import TopicBus.Text.Blank

/-!
# Texts in pieces

A text is split at a separator and joined again, and blanks are trimmed from both of its ends.
Splitting undoes joining as far as the joined texts are in one piece, and joining undoes
splitting. Trimming leaves a text with no blank at either end, which is exactly what it leaves
as it is.
-/

namespace TopicBus.Text

/-! ## Trimming -/

/-- A text that is not empty and has no blank at either end. -/
structure IsTidy (s : String) : Prop where
  nonempty : s ≠ ""
  first : ∀ c ∈ s.toList.head?, isBlank c = false
  last : ∀ c ∈ s.toList.getLast?, isBlank c = false

theorem trimChars_eq (cs : List Char) :
    trimChars cs = (cs.dropWhile isBlank).rdropWhile isBlank :=
  rfl

theorem trimChars_sublist (cs : List Char) : (trimChars cs).Sublist cs := by
  rw [trimChars_eq]
  exact (List.rdropWhile_prefix isBlank _).sublist.trans (List.dropWhile_sublist isBlank)

theorem isBlank_of_head?_trimChars {cs : List Char} {c : Char}
    (first : c ∈ (trimChars cs).head?) : isBlank c = false := by
  -- What is trimmed from the end leaves the first character where it is.
  obtain ⟨dropped, shape⟩ : trimChars cs <+: cs.dropWhile isBlank :=
    List.rdropWhile_prefix isBlank _
  have front := List.head?_dropWhile_not isBlank cs
  rw [← shape, List.head?_append, Option.mem_def.mp first] at front
  exact front

theorem isBlank_of_getLast?_trimChars {cs : List Char} {c : Char}
    (last : c ∈ (trimChars cs).getLast?) : isBlank c = false := by
  have nonempty : trimChars cs ≠ [] := by
    intro empty
    rw [empty] at last
    cases last
  have solid := List.rdropWhile_last_not isBlank (cs.dropWhile isBlank) nonempty
  rw [List.getLast?_eq_some_getLast nonempty] at last
  obtain rfl := Option.some.inj last
  exact Bool.eq_false_iff.mpr solid

theorem trimChars_eq_self {cs : List Char} (first : ∀ c ∈ cs.head?, isBlank c = false)
    (last : ∀ c ∈ cs.getLast?, isBlank c = false) : trimChars cs = cs := by
  have front : cs.dropWhile isBlank = cs := by
    cases cs with
    | nil => rfl
    | cons c rest => simp [first c rfl]
  rw [trimChars_eq, front, List.rdropWhile_eq_self_iff]
  intro nonempty
  simp [last _ (List.getLast?_eq_some_getLast nonempty)]

/-- Trimming drops the blanks around what has no blank at either end. -/
theorem trimChars_append {before core after : List Char} (blank : ∀ c ∈ before, isBlank c = true)
    (blankAfter : ∀ c ∈ after, isBlank c = true) (nonempty : core ≠ [])
    (first : ∀ c ∈ core.head?, isBlank c = false) (last : ∀ c ∈ core.getLast?, isBlank c = false) :
    trimChars (before ++ core ++ after) = core := by
  have front : (before ++ core ++ after).dropWhile isBlank = core ++ after := by
    obtain ⟨c, rest, rfl⟩ := List.exists_cons_of_ne_nil nonempty
    rw [List.append_assoc, List.dropWhile_append_of_pos blank, List.cons_append,
      List.dropWhile_cons_of_neg (Bool.eq_false_iff.mp (first c rfl))]
  have solid : core.rdropWhile isBlank = core := by
    rw [List.rdropWhile_eq_self_iff]
    intro nonempty
    simp [last _ (List.getLast?_eq_some_getLast nonempty)]
  have back : (core ++ after).rdropWhile isBlank = core.rdropWhile isBlank := by
    have blankBefore : ∀ c ∈ after.reverse, isBlank c = true := fun c member =>
      blankAfter c (List.mem_reverse.mp member)
    rw [List.rdropWhile, List.reverse_append, List.dropWhile_append_of_pos blankBefore,
      List.rdropWhile]
  rw [trimChars_eq, front, back, solid]

/-- What trimming drops are blanks at both ends. -/
theorem exists_trimChars (cs : List Char) :
    ∃ before after, cs = before ++ trimChars cs ++ after ∧ (∀ c ∈ before, isBlank c = true) ∧
      ∀ c ∈ after, isBlank c = true := by
  refine ⟨cs.takeWhile isBlank, (cs.dropWhile isBlank).rtakeWhile isBlank, ?_, ?_, ?_⟩
  · rw [trimChars_eq, List.append_assoc, List.rdropWhile_append_rtakeWhile,
      List.takeWhile_append_dropWhile]
  · exact fun c member => List.mem_takeWhile_imp member
  · exact fun c member => List.mem_rtakeWhile_imp member

theorem isTidy_trim {s : String} (left : trim s ≠ "") : IsTidy (trim s) := by
  refine ⟨left, fun c first => ?_, fun c last => ?_⟩
  · rw [trim, String.toList_ofList] at first
    exact isBlank_of_head?_trimChars first
  · rw [trim, String.toList_ofList] at last
    exact isBlank_of_getLast?_trimChars last

theorem IsTidy.trim_eq {s : String} (tidy : IsTidy s) : trim s = s := by
  rw [trim, trimChars_eq_self tidy.first tidy.last, String.ofList_toList]

/-- A text without blanks is tidy, if it is not empty. -/
theorem isTidy_of_forall {s : String} (nonempty : s ≠ "")
    (solid : ∀ c ∈ s.toList, isBlank c = false) : IsTidy s where
  nonempty := nonempty
  first c first := solid c (List.mem_of_mem_head? first)
  last c last := solid c (List.mem_of_mem_getLast? last)

theorem toList_trim_subset (s : String) : (trim s).toList ⊆ s.toList := by
  rw [trim, String.toList_ofList]
  exact (trimChars_sublist s.toList).subset

/-! ## Splitting and joining -/

theorem splitChars_eq_splitOn (sep : Char) (cs : List Char) :
    splitChars sep cs = cs.splitOn sep := by
  induction cs with
  | nil => rfl
  | cons c rest inductionHypothesis =>
      rw [splitChars, List.splitOn_cons_eq_if_modifyHead, inductionHypothesis]
      by_cases same : c = sep
      · simp [same]
      · simp only [same, if_false, beq_iff_eq]
        cases pieces : rest.splitOn sep with
        | nil => exact absurd pieces (List.splitOn_ne_nil sep rest)
        | cons piece others => rfl

theorem split_eq (sep : Char) (s : String) :
    split sep s = (s.toList.splitOn sep).map String.ofList := by
  rw [split, splitChars_eq_splitOn]

theorem split_ne_nil (sep : Char) (s : String) : split sep s ≠ [] := by
  rw [split_eq, ne_eq, List.map_eq_nil_iff]
  exact List.splitOn_ne_nil sep s.toList

/-- A text without the separator is one piece. -/
theorem split_of_not_mem {sep : Char} {s : String} (absent : sep ∉ s.toList) :
    split sep s = [s] := by
  rw [split_eq, List.splitOn_eq_singleton absent, List.map_singleton, String.ofList_toList]

theorem toList_join (sep : String) (texts : List String) :
    (join sep texts).toList = sep.toList.intercalate (texts.map String.toList) := by
  induction texts with
  | nil => rfl
  | cons s others inductionHypothesis =>
      cases others with
      | nil => simp [join]
      | cons next more =>
          rw [List.map_cons] at inductionHypothesis
          simp only [join, String.toList_append, inductionHypothesis, List.map_cons,
            List.intercalate_cons_cons]

theorem join_split (sep : Char) (s : String) :
    join (String.singleton sep) (split sep s) = s := by
  apply String.toList_injective
  rw [toList_join, split_eq, List.map_map, String.toList_singleton]
  have back : (String.toList ∘ String.ofList) = id := by
    funext cs
    exact String.toList_ofList
  rw [back, List.map_id, List.intercalate_splitOn]

/-- The pieces of joined texts are the pieces of each of them. -/
theorem split_join (sep : Char) {texts : List String} (nonempty : texts ≠ []) :
    split sep (join (String.singleton sep) texts) = texts.flatMap (split sep) := by
  induction texts with
  | nil => exact absurd rfl nonempty
  | cons s others inductionHypothesis =>
      cases others with
      | nil => simp [join]
      | cons next more =>
          have further := inductionHypothesis (List.cons_ne_nil next more)
          rw [split_eq] at further
          have shape : join (String.singleton sep) (s :: next :: more) =
              s ++ String.singleton sep ++ join (String.singleton sep) (next :: more) := rfl
          rw [List.flatMap_cons, ← further, shape, split_eq, split_eq, String.toList_append,
            String.toList_append, String.toList_singleton, List.append_assoc, List.singleton_append,
            List.splitOn_append_cons_self, List.map_append]

/-- Splitting undoes the joining of texts without the separator. -/
theorem split_join_of_forall {sep : Char} {texts : List String} (nonempty : texts ≠ [])
    (single : ∀ s ∈ texts, sep ∉ s.toList) :
    split sep (join (String.singleton sep) texts) = texts := by
  have pieces : ∀ s ∈ texts, split sep s = [s] := fun s member => split_of_not_mem (single s member)
  rw [split_join sep nonempty, List.flatMap_congr pieces, List.flatMap_singleton']

private theorem not_mem_of_mem_splitOn {sep : Char} {cs piece : List Char}
    (member : piece ∈ cs.splitOn sep) : sep ∉ piece := by
  induction cs generalizing piece with
  | nil =>
      obtain rfl : piece = [] := by simpa using member
      exact List.not_mem_nil
  | cons c rest inductionHypothesis =>
      rw [List.splitOn_cons_eq_if_modifyHead] at member
      by_cases same : c = sep
      · simp only [same, beq_self_eq_true, if_true, List.mem_cons] at member
        rcases member with rfl | later
        · exact List.not_mem_nil
        · exact inductionHypothesis later
      · simp only [same, beq_iff_eq, if_false] at member
        cases pieces : rest.splitOn sep with
        | nil => exact absurd pieces (List.splitOn_ne_nil sep rest)
        | cons first others =>
            rw [pieces, List.modifyHead_cons, List.mem_cons] at member
            rcases member with rfl | later
            · have absent := inductionHypothesis (pieces ▸ List.mem_cons_self)
              simp [absent, Ne.symm same]
            · exact inductionHypothesis (pieces ▸ List.mem_cons_of_mem first later)

/-- No piece holds the separator. -/
theorem not_mem_of_mem_split {sep : Char} {s piece : String} (member : piece ∈ split sep s) :
    sep ∉ piece.toList := by
  rw [split_eq] at member
  obtain ⟨cs, inPieces, rfl⟩ := List.mem_map.mp member
  rw [String.toList_ofList]
  exact not_mem_of_mem_splitOn inPieces

end TopicBus.Text
