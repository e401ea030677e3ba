import TopicBus.Proofs.Text.Pieces

/-!
# Spellings of a word

A word may be written with blanks around it and with each of its ASCII letters in either case.
Folding forgets just that: a text folds to a word in lower case just if it is a spelling of the
word, and no character but an ASCII letter can stand in a spelling for a letter.
-/

namespace TopicBus.Text

/-! ## The case of ASCII letters -/

theorem toNat_lowerAscii (c : Char) :
    (lowerAscii c).toNat = if 65 ≤ c.toNat ∧ c.toNat ≤ 90 then c.toNat + 32 else c.toNat := by
  have isUpper : 'A' ≤ c ∧ c ≤ 'Z' ↔ 65 ≤ c.toNat ∧ c.toNat ≤ 90 := Iff.rfl
  unfold lowerAscii
  by_cases upper : 65 ≤ c.toNat ∧ c.toNat ≤ 90
  · have valid : (c.toNat + 32).isValidChar := .inl (by omega)
    have lowered : Char.ofNat (c.toNat + 32) = Char.ofNatAux (c.toNat + 32) valid := dif_pos valid
    rw [if_pos (isUpper.mpr upper), if_pos upper, lowered]
    rfl
  · rw [if_neg (mt isUpper.mp upper), if_neg upper]

@[simp]
theorem lowerAscii_lowerAscii (c : Char) : lowerAscii (lowerAscii c) = lowerAscii c := by
  apply Char.toNat_inj.mp
  rw [toNat_lowerAscii, toNat_lowerAscii]
  grind

@[simp]
theorem isBlank_lowerAscii (c : Char) : isBlank (lowerAscii c) = isBlank c := by
  simp only [isBlank, toNat_lowerAscii]
  split
  · grind
  · rfl

theorem isLower_iff {c : Char} : c.isLower = true ↔ 97 ≤ c.toNat ∧ c.toNat ≤ 122 := by
  have bounds : c.isLower = (decide (97 ≤ c.val) && decide (c.val ≤ 122)) := rfl
  rw [bounds, Bool.and_eq_true, decide_eq_true_iff, decide_eq_true_iff]
  exact Iff.rfl

theorem isUpper_iff {c : Char} : c.isUpper = true ↔ 65 ≤ c.toNat ∧ c.toNat ≤ 90 := by
  have bounds : c.isUpper = decide (65 ≤ c.val ∧ c.val ≤ 90) := rfl
  rw [bounds, decide_eq_true_iff]
  exact Iff.rfl

theorem lowerAscii_of_isLower {c : Char} (isLower : c.isLower = true) : lowerAscii c = c := by
  have bounds := isLower_iff.mp isLower
  apply Char.toNat_inj.mp
  rw [toNat_lowerAscii, if_neg (by omega)]

theorem isBlank_of_isLower {c : Char} (isLower : c.isLower = true) : isBlank c = false := by
  have bounds := isLower_iff.mp isLower
  simp only [isBlank]
  grind

/-- Only an ASCII letter has a lower-case ASCII letter as its lower-case form. -/
theorem isAlpha_of_isLower_lowerAscii {c : Char} (isLower : (lowerAscii c).isLower = true) :
    c.isAlpha = true := by
  have bounds := isLower_iff.mp isLower
  have letter : (65 ≤ c.toNat ∧ c.toNat ≤ 90) ∨ (97 ≤ c.toNat ∧ c.toNat ≤ 122) := by
    rw [toNat_lowerAscii] at bounds
    grind
  have either : c.isAlpha = (c.isUpper || c.isLower) := rfl
  rw [either, Bool.or_eq_true]
  exact letter.imp isUpper_iff.mpr isLower_iff.mpr

/-! ## Trimming -/

theorem trimChars_map_lowerAscii (cs : List Char) :
    trimChars (cs.map lowerAscii) = (trimChars cs).map lowerAscii := by
  have same : isBlank ∘ lowerAscii = isBlank := by
    funext c
    exact isBlank_lowerAscii c
  simp only [trimChars, List.dropWhile_map, ← List.map_reverse, same]

/-- Blanks around a text make no difference, whether anything else is in it or not. -/
theorem trimChars_padded {before cs after : List Char} (blank : ∀ c ∈ before, isBlank c = true)
    (blankAfter : ∀ c ∈ after, isBlank c = true) :
    trimChars (before ++ cs ++ after) = trimChars cs := by
  obtain ⟨first, last, shape, blankFirst, blankLast⟩ := exists_trimChars cs
  by_cases empty : trimChars cs = []
  · have allBlank : ∀ c ∈ before ++ cs ++ after, isBlank c = true := by
      rw [shape, empty]
      simp only [List.mem_append]
      rintro c ((inBefore | (inFirst | ⟨⟨⟩⟩) | inLast) | inAfter)
      · exact blank c inBefore
      · exact blankFirst c inFirst
      · exact blankLast c inLast
      · exact blankAfter c inAfter
    rw [empty, trimChars, List.dropWhile_eq_nil_iff.mpr allBlank]
    rfl
  · have around : before ++ cs ++ after = (before ++ first) ++ trimChars cs ++ (last ++ after) := by
      conv_lhs => rw [shape]
      simp only [List.append_assoc]
    rw [around]
    refine trimChars_append ?_ ?_ empty (fun c head => isBlank_of_head?_trimChars head)
      fun c tail => isBlank_of_getLast?_trimChars tail
    · exact List.forall_mem_append.mpr ⟨blank, blankFirst⟩
    · exact List.forall_mem_append.mpr ⟨blankLast, blankAfter⟩

/-! ## Spellings -/

/-- Whether a text is another one with blanks around it and with its ASCII letters in any case. -/
def IsSpelling (s word : String) : Prop :=
  ∃ before core after, s.toList = before ++ core ++ after ∧
    (∀ c ∈ before, isBlank c = true) ∧ (∀ c ∈ after, isBlank c = true) ∧
      core.map lowerAscii = word.toList.map lowerAscii

theorem toList_fold (s : String) : (fold s).toList = (trimChars s.toList).map lowerAscii :=
  String.toList_ofList

theorem IsSpelling.fold_eq {s word : String} (spelling : IsSpelling s word) :
    fold s = fold word := by
  obtain ⟨before, core, after, shape, blank, blankAfter, sameLetters⟩ := spelling
  apply String.toList_injective
  rw [toList_fold, toList_fold, shape, trimChars_padded blank blankAfter,
    ← trimChars_map_lowerAscii, sameLetters, trimChars_map_lowerAscii]

/-- What is folded in the text of a word is a spelling of the word. -/
theorem isSpelling_fold (s : String) : IsSpelling s (fold s) := by
  obtain ⟨before, after, shape, blank, blankAfter⟩ := exists_trimChars s.toList
  refine ⟨before, trimChars s.toList, after, shape, blank, blankAfter, ?_⟩
  simp [toList_fold, Function.comp_def]

/-- A word in lower-case ASCII letters is folded already. -/
theorem fold_eq_self {word : String} (lower : ∀ c ∈ word.toList, c.isLower = true) :
    fold word = word := by
  have trimmed : trimChars word.toList = word.toList :=
    trimChars_eq_self (fun c first => isBlank_of_isLower (lower c (List.mem_of_mem_head? first)))
      fun c last => isBlank_of_isLower (lower c (List.mem_of_mem_getLast? last))
  have kept : word.toList.map lowerAscii = word.toList :=
    (List.map_congr_left fun c member => lowerAscii_of_isLower (lower c member)).trans
      (List.map_id' word.toList)
  rw [fold, trimmed, kept, String.ofList_toList]

/-- A text folds to a word in lower-case ASCII letters just if it is a spelling of the word. -/
theorem fold_eq_iff {s word : String} (lower : ∀ c ∈ word.toList, c.isLower = true) :
    fold s = word ↔ IsSpelling s word := by
  constructor
  · rintro rfl
    exact isSpelling_fold s
  · intro spelling
    rw [spelling.fold_eq, fold_eq_self lower]

/-- Every character of a spelling of a word in lower-case ASCII letters is a blank or an ASCII
letter. -/
theorem IsSpelling.blank_or_letter {s word : String} (spelling : IsSpelling s word)
    (lower : ∀ c ∈ word.toList, c.isLower = true) {c : Char} (member : c ∈ s.toList) :
    isBlank c = true ∨ c.isAlpha = true := by
  obtain ⟨before, core, after, shape, blank, blankAfter, sameLetters⟩ := spelling
  rw [shape, List.mem_append, List.mem_append] at member
  rcases member with (inBefore | inCore) | inAfter
  · exact .inl (blank c inBefore)
  · have inWord : lowerAscii c ∈ word.toList.map lowerAscii :=
      sameLetters ▸ List.mem_map_of_mem inCore
    obtain ⟨letter, inWord, same⟩ := List.mem_map.mp inWord
    have isLower := lower letter inWord
    rw [← lowerAscii_of_isLower isLower, same] at isLower
    exact .inr (isAlpha_of_isLower_lowerAscii isLower)
  · exact .inl (blankAfter c inAfter)

end TopicBus.Text
