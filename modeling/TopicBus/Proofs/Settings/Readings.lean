import TopicBus.Settings.Basic

/-!
# What settings are read from

Once a group of settings is resolved, each of them is what the value at its own option stands
for, or a default if that option is not set. An option that is set can be read then.
-/

namespace TopicBus.Settings

/-! ## Single options -/

/-- The value at an option of a group, if both are set. -/
def optionAt? (options : Mapping) (group option : String) : Option Json :=
  match present? options group with
  | some (.mapping entries) => present? entries option
  | _ => none

/-- The number that an option is set to. -/
def numberAt? (options : Mapping) (group option : String) : Option Nat :=
  (optionAt? options group option).bind numberOf?

/-- The text that an option is set to. -/
def textAt? (options : Mapping) (group option : String) : Option String :=
  (optionAt? options group option).bind textOf?

/-- An option whose value stands for something, if it is set. -/
def IsReadable {α : Type} (meaning : Json → Option α) (options : Mapping) (group option : String) :
    Prop :=
  ∀ value, optionAt? options group option = some value → ∃ a, meaning value = some a

/-- What an option stands for. A value that stands for nothing is a fault. -/
def meant? {α : Type} (meaning : Json → Option α) (fault : String → SettingsFault)
    (entries : Mapping) (option : String) : Except SettingsFault (Option α) :=
  match present? entries option with
  | none => .ok none
  | some value =>
      match meaning value with
      | some a => .ok (some a)
      | none => .error (fault value.write)

variable {options entries : Mapping} {group option : String}

theorem number?_eq (entries : Mapping) (group option : String) :
    number? entries group option = meant? numberOf? (.numberShape group option) entries option := by
  unfold number? meant?
  cases present? entries option with
  | none => rfl
  | some value =>
      dsimp only
      cases numberOf? value <;> rfl

theorem text?_eq (entries : Mapping) (group option : String) :
    text? entries group option = meant? textOf? (.textShape group option) entries option := by
  unfold text? meant?
  cases present? entries option with
  | none => rfl
  | some value =>
      dsimp only
      cases textOf? value <;> rfl

theorem optionAt?_of_group? {unread : Option Mapping} (read : group? options group = .ok unread)
    (option : String) :
    optionAt? options group option = unread.bind fun entries => present? entries option := by
  unfold group? at read
  unfold optionAt?
  split at read
  · rename_i unset
    cases read
    rw [unset, Option.bind_none]
  · rename_i set
    cases read
    rw [set, Option.bind_some]
  · cases read

theorem bind_optionAt?_of_meant? {α : Type} {meaning : Json → Option α}
    {fault : String → SettingsFault} {found : Option α}
    (inGroup : optionAt? options group option = present? entries option)
    (read : meant? meaning fault entries option = .ok found) :
    (optionAt? options group option).bind meaning = found ∧
      IsReadable meaning options group option := by
  unfold meant? at read
  rw [IsReadable, inGroup]
  split at read
  · rename_i unset
    cases read
    simp [unset]
  · rename_i value set
    split at read
    · rename_i a known
      cases read
      simp [set, known]
    · cases read

theorem numberAt?_of_number? {found : Option Nat}
    (inGroup : optionAt? options group option = present? entries option)
    (read : number? entries group option = .ok found) :
    numberAt? options group option = found ∧ IsReadable numberOf? options group option := by
  rw [number?_eq] at read
  exact bind_optionAt?_of_meant? inGroup read

theorem textAt?_of_text? {found : Option String}
    (inGroup : optionAt? options group option = present? entries option)
    (read : text? entries group option = .ok found) :
    textAt? options group option = found := by
  rw [text?_eq] at read
  exact (bind_optionAt?_of_meant? inGroup read).1

/-! ## Groups -/

theorem exists_of_bind_eq_ok {ε α β : Type} {first : Except ε α} {next : α → Except ε β}
    {result : β}
    (succeeds : first >>= next = .ok result) :
    ∃ value, first = .ok value ∧ next value = .ok result := by
  cases first with
  | error fault => cases succeeds
  | ok value => exact ⟨value, rfl, succeeds⟩

/-- The settings that the options of the group stand for. -/
def Security.ofOptions (options : Mapping) : Security where
  protocol := textAt? options "security" "protocol"
  mechanism := textAt? options "security" "mechanism"
  username := textAt? options "security" "username"
  password := textAt? options "security" "password"

theorem Security.eq_ofOptions {security : Security}
    (resolved : Security.resolve options = .ok security) : security = ofOptions options := by
  obtain ⟨unread, group, resolved⟩ := exists_of_bind_eq_ok resolved
  have inGroup := optionAt?_of_group? group
  cases unread with
  | none =>
      cases resolved
      simp [ofOptions, textAt?, inGroup, default]
  | some entries =>
      obtain ⟨protocol, protocolRead, resolved⟩ := exists_of_bind_eq_ok resolved
      obtain ⟨mechanism, mechanismRead, resolved⟩ := exists_of_bind_eq_ok resolved
      obtain ⟨username, usernameRead, resolved⟩ := exists_of_bind_eq_ok resolved
      obtain ⟨password, passwordRead, resolved⟩ := exists_of_bind_eq_ok resolved
      cases resolved
      rw [ofOptions, textAt?_of_text? (inGroup _) protocolRead,
        textAt?_of_text? (inGroup _) mechanismRead, textAt?_of_text? (inGroup _) usernameRead,
        textAt?_of_text? (inGroup _) passwordRead]

/-- The settings that the options of the group stand for. -/
def Producer.ofOptions (options : Mapping) : Producer where
  linger := (numberAt? options "producer" "linger_ms").getD default.linger
  batchSize := numberAt? options "producer" "batch_size"
  ack := textAt? options "producer" "ack"
  retries := (numberAt? options "producer" "retries").getD default.retries
  bufferSize := (numberAt? options "producer" "buffer_size").getD default.bufferSize
  flushTimeout := (numberAt? options "producer" "flush_timeout_ms").getD default.flushTimeout

/-- The options of a producer that are numbers. -/
def Producer.numbers : List String :=
  ["linger_ms", "batch_size", "retries", "buffer_size", "flush_timeout_ms"]

theorem Producer.eq_ofOptions {producer : Producer}
    (resolved : Producer.resolve options = .ok producer) :
    producer = ofOptions options ∧
      ∀ option ∈ numbers, IsReadable numberOf? options "producer" option := by
  obtain ⟨unread, group, resolved⟩ := exists_of_bind_eq_ok resolved
  have inGroup := optionAt?_of_group? group
  cases unread with
  | none =>
      cases resolved
      simp [ofOptions, numberAt?, textAt?, IsReadable, inGroup, default]
  | some entries =>
      obtain ⟨linger, lingerRead, resolved⟩ := exists_of_bind_eq_ok resolved
      obtain ⟨batchSize, batchSizeRead, resolved⟩ := exists_of_bind_eq_ok resolved
      obtain ⟨ack, ackRead, resolved⟩ := exists_of_bind_eq_ok resolved
      obtain ⟨retries, retriesRead, resolved⟩ := exists_of_bind_eq_ok resolved
      obtain ⟨bufferSize, bufferSizeRead, resolved⟩ := exists_of_bind_eq_ok resolved
      obtain ⟨flushTimeout, flushTimeoutRead, resolved⟩ := exists_of_bind_eq_ok resolved
      cases resolved
      have lingerAt := numberAt?_of_number? (inGroup _) lingerRead
      have batchSizeAt := numberAt?_of_number? (inGroup _) batchSizeRead
      have retriesAt := numberAt?_of_number? (inGroup _) retriesRead
      have bufferSizeAt := numberAt?_of_number? (inGroup _) bufferSizeRead
      have flushTimeoutAt := numberAt?_of_number? (inGroup _) flushTimeoutRead
      constructor
      · rw [ofOptions, lingerAt.1, batchSizeAt.1, textAt?_of_text? (inGroup _) ackRead,
          retriesAt.1, bufferSizeAt.1, flushTimeoutAt.1]
      · simp only [numbers, List.forall_mem_cons]
        exact ⟨lingerAt.2, batchSizeAt.2, retriesAt.2, bufferSizeAt.2, flushTimeoutAt.2, nofun⟩

end TopicBus.Settings
