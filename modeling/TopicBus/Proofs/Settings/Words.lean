import TopicBus.Proofs.Settings.Numbers
import TopicBus.Proofs.Text.Spelling
import TopicBus.Setup

/-!
# Words of a settings document

A backend and a policy for the start of a group are named by words. A text names one of them
just if it is a spelling of its word; a refused backend is quoted as it stands in the document,
a refused policy as it was folded. An option that names a policy takes the same texts as the
policy alone, and nothing else in the settings depends on it.
-/

namespace TopicBus

/-! ## Reading words -/

/--
How some things are read by their words: a text names the thing to whose word it folds, which is
the thing whose word it spells. Any other text is refused.
-/
structure ReadsWords {α ε : Type} (word : α → String) (refusal : String → ε)
    (parse : String → Except ε α) : Prop where
  folded : ∀ s a, parse s = .ok a ↔ Text.fold s = word a
  spelled : ∀ s a, parse s = .ok a ↔ Text.IsSpelling s (word a)
  /-- Blanks around a text and the case of its ASCII letters make no difference. -/
  respelled : ∀ s t a, Text.IsSpelling s t → (parse s = .ok a ↔ parse t = .ok a)
  /-- No character outside ASCII stands for a letter of a word. -/
  letters : ∀ s a, parse s = .ok a → ∀ c ∈ s.toList, Text.isBlank c = true ∨ c.isAlpha = true
  canonical : ∀ a, parse (word a) = .ok a
  refused : ∀ s fault, parse s = .error fault ↔ fault = refusal s ∧ ∀ a, Text.fold s ≠ word a

/-- Words in lower-case ASCII letters are read so, if exactly the texts that fold to one of them
are taken. -/
theorem readsWords_of_folded {α ε : Type} {word : α → String} {refusal : String → ε}
    {parse : String → Except ε α} (lower : ∀ a, ∀ c ∈ (word a).toList, c.isLower = true)
    (accepts : ∀ s a, parse s = .ok a ↔ Text.fold s = word a)
    (refuses : ∀ s fault, parse s = .error fault → fault = refusal s) :
    ReadsWords word refusal parse where
  folded := accepts
  spelled s a := by rw [accepts, Text.fold_eq_iff (lower a)]
  respelled s t a spelling := by rw [accepts, accepts, spelling.fold_eq]
  letters s a taken c member := by
    have spelling := (Text.fold_eq_iff (lower a)).mp ((accepts s a).mp taken)
    exact spelling.blank_or_letter (lower a) member
  canonical a := (accepts _ a).mpr (Text.fold_eq_self (lower a))
  refused s fault := by
    constructor
    · intro refused
      refine ⟨refuses s fault refused, fun a same => ?_⟩
      rw [(accepts s a).mpr same] at refused
      cases refused
    · rintro ⟨rfl, unlike⟩
      cases outcome : parse s with
      | error fault => rw [refuses s fault outcome]
      | ok a => exact absurd ((accepts s a).mp outcome) (unlike a)

theorem Backend.parse_eq_ok_iff {s : String} {backend : Backend} :
    parse s = .ok backend ↔ Text.fold s = backend.word := by
  unfold parse
  dsimp only
  split_ifs with kafka memory
  · cases backend <;> simp [kafka, word]
  · cases backend <;> simp [memory, word]
  · cases backend <;> simp [kafka, memory]

theorem Backend.readsWords : ReadsWords word Fault.unsupportedDriver parse := by
  refine readsWords_of_folded ?_ (fun _ _ => parse_eq_ok_iff) ?_
  · intro backend
    cases backend <;> simp [word]
  · intro s fault refused
    unfold parse at refused
    dsimp only at refused
    split_ifs at refused
    cases refused
    rfl

theorem StartPolicy.parse_eq_ok_iff {s : String} {policy : StartPolicy} :
    parse s = .ok policy ↔ Text.fold s = policy.word := by
  unfold parse
  dsimp only
  split_ifs with earliest latest none
  · cases policy <;> simp [earliest, word]
  · cases policy <;> simp [latest, word]
  · cases policy <;> simp [none, word]
  · cases policy <;> simp [earliest, latest, none]

theorem StartPolicy.readsWords :
    ReadsWords word (fun s => SettingsFault.unknownPolicy (Text.fold s)) parse := by
  refine readsWords_of_folded ?_ (fun _ _ => parse_eq_ok_iff) ?_
  · intro policy
    cases policy <;> simp [word]
  · intro s fault refused
    unfold parse at refused
    dsimp only at refused
    split_ifs at refused
    cases refused
    rfl

/-- A policy is taken or refused alike in all spellings of a text. -/
theorem StartPolicy.parse_congr {s t : String} (spelling : Text.IsSpelling s t) :
    parse s = parse t := by
  rw [parse, spelling.fold_eq, parse]

/-! ## The option that names a policy -/

namespace Settings

/-- The settings with a policy named. -/
def Consumer.setPolicy (policy : StartPolicy) (consumer : Consumer) : Consumer :=
  { consumer with startPolicy := some policy }

theorem Consumer.reflects_ofReadings_policy
    (number : Quantity → Except SettingsFault (Option Nat))
    (group : Except SettingsFault (Option String)) (s : String) :
    Reflects setPolicy (some <$> StartPolicy.parse s) (ofReadings number group (.ok (some s)))
      (ofReadings number group (.ok none)) := by
  have split (policyWord : Option String) : ofReadings number group (.ok policyWord) =
      group >>= fun group => policyWord.mapM StartPolicy.parse >>= fun startPolicy =>
        ofReadings number (.ok group) (.ok none) >>= fun consumer =>
          pure { consumer with startPolicy := startPolicy } := by
    simp only [ofReadings, bind_assoc, pure_bind]
    rfl
  rw [split, split]
  refine .after group fun group => ?_
  refine (Reflects.read (some <$> StartPolicy.parse s)).before fun policy consumer => ?_
  simp only [map_bind, map_pure]
  rfl

/-- A policy is all that a consumer has of its option. -/
theorem Consumer.reflects_policy {options others : Mapping} {s : String}
    (agree : AgreeBut "consumer" "auto_offset_reset" options others)
    (set : textAt? options "consumer" "auto_offset_reset" = some s)
    (unset : optionAt? others "consumer" "auto_offset_reset" = none) :
    Reflects setPolicy (some <$> StartPolicy.parse s) (resolve options) (resolve others) := by
  obtain ⟨entries, otherEntries, found, foundToo, inGroup, inGroupToo, alike⟩ := agree.groups
  have named : text? entries "consumer" "auto_offset_reset" = .ok (some s) := by
    rw [textAt?, inGroup, Option.bind_eq_some_iff] at set
    obtain ⟨value, present, meaning⟩ := set
    rw [text?_eq, meant?, present]
    simp only [meaning]
  have unnamed : text? otherEntries "consumer" "auto_offset_reset" = .ok none := by
    rw [text?, ← inGroupToo, unset]
  have group : text? entries "consumer" "group_id" = text? otherEntries "consumer" "group_id" :=
    text?_congr (alike _ (by decide)) "consumer"
  have numbers : (fun quantity : Quantity => number? entries "consumer" quantity.option) =
      fun quantity => number? otherEntries "consumer" quantity.option := by
    funext quantity
    exact number?_congr (alike _ (by cases quantity <;> decide)) "consumer"
  rw [resolve_of_group? found, resolve_of_group? foundToo, named, unnamed, group, numbers]
  exact reflects_ofReadings_policy _ _ s

/--
The texts that name a backend or a policy are the spellings of their words, and what is refused
is reported as it stands or as it was folded. An option that names a policy sets it for exactly
the texts that name one, whatever else is set.
-/
theorem words_read_in_any_spelling :
    ReadsWords Backend.word Fault.unsupportedDriver Backend.parse ∧
      ReadsWords StartPolicy.word (fun s => .unknownPolicy (Text.fold s)) StartPolicy.parse ∧
      (∀ s t, Text.IsSpelling s t → StartPolicy.parse s = StartPolicy.parse t) ∧
      ∀ (options others : Mapping) (s : String),
        AgreeBut "consumer" "auto_offset_reset" options others →
        textAt? options "consumer" "auto_offset_reset" = some s →
        optionAt? others "consumer" "auto_offset_reset" = none →
        (∀ policy, Text.fold s = policy.word →
          Consumer.resolve options = Consumer.setPolicy policy <$> Consumer.resolve others) ∧
        ((∀ policy : StartPolicy, Text.fold s ≠ policy.word) →
          Consumer.resolve options = .error (.unknownPolicy (Text.fold s)) ∨
            ∃ cause, Consumer.resolve options = .error cause ∧
              Consumer.resolve others = .error cause) := by
  refine ⟨Backend.readsWords, StartPolicy.readsWords, fun _ _ => StartPolicy.parse_congr, ?_⟩
  intro options others s agree set unset
  have reflects := Consumer.reflects_policy agree set unset
  constructor
  · intro policy names
    rw [StartPolicy.parse_eq_ok_iff.mpr names] at reflects
    exact reflects
  · intro unlike
    rw [(StartPolicy.readsWords.refused s _).mpr ⟨rfl, unlike⟩] at reflects
    exact reflects

/-- A padded word in mixed case, and a word with a look-alike of its first letter. -/
theorem words_read_in_any_spelling_of_padded :
    let options (value : Json) : Mapping :=
      Mapping.insert "consumer" (.mapping (Mapping.insert "auto_offset_reset" value [])) []
    let padded := "\u2003LaTeSt\n"
    let kelvin := "\u212Aafka"
    Text.IsSpelling padded "latest" ∧ StartPolicy.parse padded = StartPolicy.parse "latest" ∧
      StartPolicy.parse padded = .ok .latest ∧
      Backend.parse kelvin = .error (.unsupportedDriver kelvin) ∧
      AgreeBut "consumer" "auto_offset_reset" (options (.text padded)) (options .null) ∧
      textAt? (options (.text padded)) "consumer" "auto_offset_reset" = some padded ∧
      optionAt? (options .null) "consumer" "auto_offset_reset" = none ∧
      Consumer.resolve (options (.text padded)) =
        Consumer.setPolicy .latest <$> Consumer.resolve (options .null) := by
  intro options padded kelvin
  obtain ⟨backends, policies, alike, option⟩ := words_read_in_any_spelling
  have folded : Text.fold padded = "latest" := by decide +kernel
  have spelling : Text.IsSpelling padded "latest" := folded ▸ Text.isSpelling_fold padded
  have unlike : ∀ backend : Backend, Text.fold kelvin ≠ backend.word := by
    intro backend
    cases backend <;> decide +kernel
  have agree : AgreeBut "consumer" "auto_offset_reset" (options (.text padded)) (options .null) :=
    .of_insert ..
  exact ⟨spelling, alike padded "latest" spelling, (policies.folded padded .latest).mpr folded,
    (backends.refused kelvin _).mpr ⟨rfl, unlike⟩, agree, rfl, rfl,
    (option _ _ padded agree rfl rfl).1 .latest folded⟩

end Settings

end TopicBus
