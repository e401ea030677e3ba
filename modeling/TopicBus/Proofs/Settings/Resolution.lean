import TopicBus.Settings.Basic

/-!
# What a resolution looks at

Each part of the settings is resolved from its own option, so that putting another value at one
option leaves the other parts as they were. All settings are resolved if each of their parts is.
-/

namespace TopicBus

namespace Mapping

/-- After a value has been put at a key, it is found there, and at any other key what was there
before. -/
theorem get?_insert (key other : String) (value : Json) (entries : Mapping) :
    (insert key value entries).get? other =
      if other = key then some value else entries.get? other := by
  induction entries with
  | nil =>
      by_cases same : other = key
      · simp [insert, get?, same]
      · simp [insert, get?, same, List.lookup_cons, beq_false_of_ne]
  | cons entry rest inductionHypothesis =>
      obtain ⟨present, kept⟩ := entry
      unfold get? at inductionHypothesis ⊢
      rw [insert]
      by_cases before : key < present
      · rw [if_pos before, List.lookup_cons]
        by_cases same : other = key
        · simp [same]
        · simp [same, beq_false_of_ne]
      · rw [if_neg before]
        by_cases replaced : key = present
        · subst replaced
          rw [if_pos rfl, List.lookup_cons, List.lookup_cons]
          by_cases same : other = key
          · simp [same]
          · simp [same, beq_false_of_ne]
        · rw [if_neg replaced, List.lookup_cons, List.lookup_cons, inductionHypothesis]
          by_cases here : other = present
          · subst here
            simp [Ne.symm replaced]
          · simp [here, beq_false_of_ne]

end Mapping

namespace Settings

variable {options others : Mapping} {key : String} {value : Json}

theorem present?_insert (options : Mapping) (key : String) (value : Json) (set : value ≠ .null) :
    present? (Mapping.insert key value options) key = some value := by
  rw [present?, Mapping.get?_insert, if_pos rfl]
  cases value with
  | null => exact absurd rfl set
  | bool b | number n | text s | list items | mapping entries => rfl

theorem addresses_congr (same : options.get? "brokers" = others.get? "brokers") :
    addresses options = addresses others := by
  simp only [addresses, present?, same]

theorem Security.resolve_congr (same : options.get? "security" = others.get? "security") :
    Security.resolve options = Security.resolve others := by
  simp only [Security.resolve, group?, present?, same]

theorem Producer.resolve_congr (same : options.get? "producer" = others.get? "producer") :
    Producer.resolve options = Producer.resolve others := by
  simp only [Producer.resolve, group?, present?, same]

theorem Consumer.resolve_congr (same : options.get? "consumer" = others.get? "consumer") :
    Consumer.resolve options = Consumer.resolve others := by
  simp only [Consumer.resolve, group?, present?, same]

theorem Security.resolve_insert (different : "security" ≠ key) :
    Security.resolve (Mapping.insert key value options) = Security.resolve options :=
  Security.resolve_congr (by rw [Mapping.get?_insert, if_neg different])

theorem Producer.resolve_insert (different : "producer" ≠ key) :
    Producer.resolve (Mapping.insert key value options) = Producer.resolve options :=
  Producer.resolve_congr (by rw [Mapping.get?_insert, if_neg different])

theorem Consumer.resolve_insert (different : "consumer" ≠ key) :
    Consumer.resolve (Mapping.insert key value options) = Consumer.resolve options :=
  Consumer.resolve_congr (by rw [Mapping.get?_insert, if_neg different])

/-- Settings are resolved just if each of their parts is. -/
theorem Broker.resolve_eq_ok_iff {broker : Broker} :
    Broker.resolve options = .ok broker ↔
      addresses options = .ok broker.servers ∧ Security.resolve options = .ok broker.security ∧
        Producer.resolve options = .ok broker.producer ∧
        Consumer.resolve options = .ok broker.consumer := by
  obtain ⟨servers, security, producer, consumer⟩ := broker
  unfold Broker.resolve
  cases addresses options with
  | error fault => simp [bind, Except.bind]
  | ok servers =>
      cases Security.resolve options with
      | error fault => simp [bind, Except.bind]
      | ok security =>
          cases Producer.resolve options with
          | error fault => simp [bind, Except.bind]
          | ok producer =>
              cases Consumer.resolve options with
              | error fault => simp [bind, Except.bind]
              | ok consumer => simp [bind, Except.bind, pure, Except.pure]

end Settings

end TopicBus
