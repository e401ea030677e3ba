import TopicBus.Proofs.Settings.Resolution

/-!
# Options that matter

A group knows its own options only, and an option or a group that is null counts as unset. So
options can be cut down to those that are known and set, at both levels: the rest is resolved as
the whole was, into the same settings or into the same fault. The value of an option that is
known and set is left as it is, since a fault quotes it.
-/

namespace TopicBus

namespace Mapping

/-- After entries have been left out by their keys, what is found at a key is what was there, or
nothing. -/
theorem get?_filter (keep : String → Bool) (entries : Mapping) (key : String) :
    get? (entries.filter fun entry => keep entry.1) key =
      if keep key then entries.get? key else none := by
  induction entries with
  | nil => simp [get?]
  | cons entry rest inductionHypothesis =>
      obtain ⟨present, value⟩ := entry
      unfold get? at inductionHypothesis ⊢
      by_cases here : key = present
      · subst here
        cases kept : keep key with
        | false => simp [kept, inductionHypothesis]
        | true => simp [kept]
      · have elsewhere : (key == present) = false := beq_false_of_ne here
        cases kept : keep present with
        | false => simp [kept, inductionHypothesis, List.lookup_cons, elsewhere]
        | true => simp [kept, inductionHypothesis, List.lookup_cons, elsewhere]

theorem get?_map (change : String → Json → Json) (entries : Mapping) (key : String) :
    get? (entries.map fun entry => (entry.1, change entry.1 entry.2)) key =
      (entries.get? key).map (change key) := by
  induction entries with
  | nil => rfl
  | cons entry rest inductionHypothesis =>
      obtain ⟨present, value⟩ := entry
      unfold get? at inductionHypothesis ⊢
      by_cases here : key = present
      · simp [here]
      · simp [List.lookup_cons, beq_false_of_ne here, inductionHypothesis]

end Mapping

namespace Settings

/-! ## Known options -/

/-- The groups, and the options that each of them knows. -/
def knownOptions : List (String × List String) :=
  [("security", ["protocol", "mechanism", "username", "password"]),
    ("producer", ["linger_ms", "batch_size", "ack", "retries", "buffer_size", "flush_timeout_ms"]),
    ("consumer", ["group_id", "auto_offset_reset", "buffer_size", "poll_timeout_ms"])]

/-- The keys that are looked at in the options themselves. -/
def knownKeys : List String :=
  "brokers" :: knownOptions.map Prod.fst

/-- The entries at some keys, without those that are null. -/
def cutTo (keys : List String) (entries : Mapping) : Mapping :=
  entries.filter fun entry => entry.1 ∈ keys && (present? entries entry.1).isSome

/-- A value of the options. A group is cut down to the options that it knows; what is no group
stays for the fault. -/
def relevantPart (key : String) : Json → Json
  | .mapping entries =>
      match knownOptions.lookup key with
      | some known => .mapping (cutTo known entries)
      | none => .mapping entries
  | value => value

/-- The options without the keys that are unknown or null, inside the groups too. -/
def relevant (options : Mapping) : Mapping :=
  (cutTo knownKeys options).map fun entry => (entry.1, relevantPart entry.1 entry.2)

/-! ## What is left -/

variable {entries : Mapping} {keys : List String} {key group option : String}

theorem get?_cutTo (keys : List String) (entries : Mapping) (key : String) :
    (cutTo keys entries).get? key = if key ∈ keys then present? entries key else none := by
  rw [cutTo, Mapping.get?_filter fun other => other ∈ keys && (present? entries other).isSome]
  by_cases known : key ∈ keys
  -- An entry that is left out for being null would not have been set anyway.
  · simp only [known, decide_true, Bool.true_and, if_true, present?]
    cases entries.get? key with
    | none => rfl
    | some value => cases value <;> rfl
  · simp [known]

theorem present?_cutTo (known : key ∈ keys) :
    present? (cutTo keys entries) key = present? entries key := by
  unfold present?
  rw [get?_cutTo, if_pos known, present?]
  cases entries.get? key with
  | none => rfl
  | some value => cases value <;> rfl

theorem text?_cutTo (known : option ∈ keys) :
    text? (cutTo keys entries) group option = text? entries group option := by
  rw [text?, present?_cutTo known, text?]

theorem number?_cutTo (known : option ∈ keys) :
    number? (cutTo keys entries) group option = number? entries group option := by
  rw [number?, present?_cutTo known, number?]

theorem get?_relevant (options : Mapping) (key : String) :
    (relevant options).get? key =
      if key ∈ knownKeys then (present? options key).map (relevantPart key) else none := by
  rw [relevant, Mapping.get?_map, get?_cutTo]
  by_cases known : key ∈ knownKeys
  · rw [if_pos known, if_pos known]
  · rw [if_neg known, if_neg known, Option.map_none]

theorem present?_relevant (options : Mapping) (known : key ∈ knownKeys) :
    present? (relevant options) key = (present? options key).map (relevantPart key) := by
  unfold present?
  rw [get?_relevant, if_pos known, present?]
  cases options.get? key with
  | none => rfl
  | some value =>
      cases value with
      | mapping entries =>
          simp only [Option.map_some, relevantPart]
          cases knownOptions.lookup key <;> rfl
      | null | bool b | number n | text s | list items => rfl

theorem group?_relevant (options : Mapping) (isGroup : group ∈ knownKeys)
    (knows : knownOptions.lookup group = some keys) :
    group? (relevant options) group = (group? options group).map (Option.map (cutTo keys)) := by
  rw [group?, present?_relevant options isGroup, group?]
  cases present? options group with
  | none => rfl
  | some value =>
      cases value with
      | mapping entries => simp only [Option.map_some, relevantPart, knows, Except.map]
      | null | bool b | number n | text s | list items => rfl

/-! ## What is resolved -/

theorem addresses_relevant (options : Mapping) :
    addresses (relevant options) = addresses options := by
  have same : present? (relevant options) "brokers" = present? options "brokers" := by
    rw [present?_relevant options (by decide)]
    -- The addresses are no group, so that a mapping in their place is left as it is too.
    cases present? options "brokers" with
    | none => rfl
    | some value => cases value <;> rfl
  rw [addresses, same, addresses]

/-- What is read of a group is read of the relevant options, if only options that the group
knows are looked at. -/
theorem read_group_relevant {α : Type} {unset : α} {read : Mapping → Except SettingsFault α}
    (options : Mapping) (isGroup : group ∈ knownKeys)
    (knows : knownOptions.lookup group = some keys)
    (reads : ∀ entries, read (cutTo keys entries) = read entries) :
    (do match ← group? (relevant options) group with
        | none => return unset
        | some entries => read entries) =
      (do match ← group? options group with
        | none => return unset
        | some entries => read entries) := by
  rw [group?_relevant options isGroup knows]
  cases group? options group with
  | error fault => rfl
  | ok found =>
      cases found with
      | none => rfl
      | some entries => exact reads entries

theorem Security.resolve_relevant (options : Mapping) :
    Security.resolve (relevant options) = Security.resolve options := by
  apply read_group_relevant options (by decide) rfl
  intro entries
  simp (disch := decide) only [text?_cutTo]

theorem Producer.resolve_relevant (options : Mapping) :
    Producer.resolve (relevant options) = Producer.resolve options := by
  apply read_group_relevant options (by decide) rfl
  intro entries
  simp (disch := decide) only [text?_cutTo, number?_cutTo]

theorem Consumer.resolve_relevant (options : Mapping) :
    Consumer.resolve (relevant options) = Consumer.resolve options := by
  apply read_group_relevant options (by decide) rfl
  intro entries
  simp (disch := decide) only [text?_cutTo, number?_cutTo]

/--
All that is resolved of options, and all that is found wrong with them, stays the same when what
is unknown or null is left out.
-/
theorem resolved_of_relevant (options : Mapping) :
    Broker.resolve (relevant options) = Broker.resolve options ∧
      Security.resolve (relevant options) = Security.resolve options ∧
      Producer.resolve (relevant options) = Producer.resolve options ∧
      Consumer.resolve (relevant options) = Consumer.resolve options := by
  have security := Security.resolve_relevant options
  have producer := Producer.resolve_relevant options
  have consumer := Consumer.resolve_relevant options
  refine ⟨?_, security, producer, consumer⟩
  rw [Broker.resolve, addresses_relevant, security, producer, consumer, Broker.resolve]

example :
    relevant
        [("brokers", .text "a"), ("colour", .text "red"),
          ("producer", .mapping
            [("ack", .null), ("retries", .text "3"), ("speed", .mapping [("top", .bool true)])]),
          ("security", .null)] =
      [("brokers", .text "a"), ("producer", .mapping [("retries", .text "3")])] := by
  rfl

end Settings

end TopicBus
