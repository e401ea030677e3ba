import TopicBus.Proofs.Settings.Readings
import TopicBus.Proofs.Settings.Resolution

/-!
# Options that differ in one place

Two mappings of options may differ in what stands at one option of one group, and be the same
otherwise. Then whatever is read beside that option is read alike from both of them.
-/

namespace TopicBus.Settings

/-- Whether options have the same group, with the same in it but for one option, and are the
same beside it. -/
structure AgreeBut (group option : String) (options others : Mapping) : Prop where
  beside : ∀ key, key ≠ group → options.get? key = others.get? key
  inside : ∃ entries otherEntries : Mapping, options.get? group = some (.mapping entries) ∧
    others.get? group = some (.mapping otherEntries) ∧
      ∀ key, key ≠ option → entries.get? key = otherEntries.get? key

/-! ## Single options -/

section

variable {entries others : Mapping} {key : String}

theorem text?_congr (same : present? entries key = present? others key) (group : String) :
    text? entries group key = text? others group key := by
  rw [text?, same, text?]

theorem number?_congr (same : present? entries key = present? others key) (group : String) :
    number? entries group key = number? others group key := by
  rw [number?, same, number?]

end

/-! ## Groups -/

namespace AgreeBut

variable {group option : String} {options others : Mapping}

theorem symm (agree : AgreeBut group option options others) :
    AgreeBut group option others options := by
  obtain ⟨entries, otherEntries, here, there, alike⟩ := agree.inside
  exact ⟨fun key different => (agree.beside key different).symm, otherEntries, entries, there, here,
    fun key different => (alike key different).symm⟩

theorem trans {third : Mapping} (agree : AgreeBut group option options others)
    (agreeToo : AgreeBut group option others third) : AgreeBut group option options third := by
  obtain ⟨entries, otherEntries, here, there, alike⟩ := agree.inside
  obtain ⟨sameEntries, thirdEntries, thereToo, beyond, alikeToo⟩ := agreeToo.inside
  rw [there] at thereToo
  cases thereToo
  exact ⟨fun key different => (agree.beside key different).trans (agreeToo.beside key different),
    entries, thirdEntries, here, beyond,
    fun key different => (alike key different).trans (alikeToo key different)⟩

/-- The groups that differ in the one option only, and what is found in them. -/
theorem groups (agree : AgreeBut group option options others) :
    ∃ entries otherEntries : Mapping,
      group? options group = .ok (some entries) ∧ group? others group = .ok (some otherEntries) ∧
        (∀ key, optionAt? options group key = present? entries key) ∧
        (∀ key, optionAt? others group key = present? otherEntries key) ∧
        ∀ key, key ≠ option → present? entries key = present? otherEntries key := by
  obtain ⟨entries, otherEntries, here, there, alike⟩ := agree.inside
  have found : group? options group = .ok (some entries) := by
    simp only [group?, present?, here]
  have foundToo : group? others group = .ok (some otherEntries) := by
    simp only [group?, present?, there]
  refine ⟨entries, otherEntries, found, foundToo, optionAt?_of_group? found,
    optionAt?_of_group? foundToo, fun key different => ?_⟩
  simp only [present?, alike key different]

/-- Options differ in one place, if two values are put there. -/
theorem of_insert (group option : String) (entries options : Mapping) (value other : Json) :
    AgreeBut group option
      (Mapping.insert group (.mapping (Mapping.insert option value entries)) options)
      (Mapping.insert group (.mapping (Mapping.insert option other entries)) options) := by
  refine ⟨fun key different => ?_, Mapping.insert option value entries,
    Mapping.insert option other entries, ?_, ?_, fun key different => ?_⟩
  · rw [Mapping.get?_insert, Mapping.get?_insert, if_neg different, if_neg different]
  · rw [Mapping.get?_insert, if_pos rfl]
  · rw [Mapping.get?_insert, if_pos rfl]
  · rw [Mapping.get?_insert, Mapping.get?_insert, if_neg different, if_neg different]

theorem addresses_eq (agree : AgreeBut group option options others)
    (different : "brokers" ≠ group) :
    addresses options = addresses others :=
  addresses_congr (agree.beside "brokers" different)

theorem security_eq (agree : AgreeBut group option options others)
    (different : "security" ≠ group) :
    Security.resolve options = Security.resolve others :=
  Security.resolve_congr (agree.beside "security" different)

theorem producer_eq (agree : AgreeBut group option options others)
    (different : "producer" ≠ group) :
    Producer.resolve options = Producer.resolve others :=
  Producer.resolve_congr (agree.beside "producer" different)

theorem consumer_eq (agree : AgreeBut group option options others)
    (different : "consumer" ≠ group) :
    Consumer.resolve options = Consumer.resolve others :=
  Consumer.resolve_congr (agree.beside "consumer" different)

end AgreeBut

end TopicBus.Settings
