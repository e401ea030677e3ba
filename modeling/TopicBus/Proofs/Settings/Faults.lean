import TopicBus.Settings.Basic

/-!
# What faults name

Whatever is wrong with a group of settings, the wording of the fault begins with the name of the
group, so that faults of different groups can be told apart by their wording.
-/

namespace TopicBus

/-- Whether the wording of a fault begins with a name. -/
def SettingsFault.Names (fault : SettingsFault) (name : String) : Prop :=
  ∃ rest, fault.message = name ++ rest

namespace SettingsFault

theorem names_sectionShape (group got : String) : (sectionShape group got).Names group :=
  ⟨" must be a mapping, got " ++ got, String.append_assoc⟩

theorem message_textShape (group option got : String) :
    (textShape group option got).message =
      group ++ ("." ++ (option ++ (" must be a string, got " ++ got))) := by
  have wording : (textShape group option got).message =
      group ++ "." ++ option ++ " must be a string, got " ++ got := rfl
  rw [wording, String.append_assoc, String.append_assoc, String.append_assoc]

theorem message_numberShape (group option got : String) :
    (numberShape group option got).message =
      group ++ ("." ++ (option ++ (" must be a non-negative number, got " ++ got))) := by
  have wording : (numberShape group option got).message =
      group ++ "." ++ option ++ " must be a non-negative number, got " ++ got := rfl
  rw [wording, String.append_assoc, String.append_assoc, String.append_assoc]

theorem message_unknownPolicy (word : String) :
    (unknownPolicy word).message =
      "consumer" ++ (".auto_offset_reset: unknown policy '" ++ (word ++ "'")) := by
  have wording : (unknownPolicy word).message =
      "consumer" ++ ".auto_offset_reset: unknown policy '" ++ word ++ "'" := rfl
  rw [wording, String.append_assoc, String.append_assoc]

/-- Of two names that one wording begins with, one begins with the other. -/
theorem Names.prefix_or_prefix {fault other : SettingsFault} {name otherName : String}
    (names : fault.Names name) (namesToo : other.Names otherName)
    (same : fault.message = other.message) :
    name.toList <+: otherName.toList ∨ otherName.toList <+: name.toList := by
  obtain ⟨rest, wording⟩ := names
  obtain ⟨otherRest, otherWording⟩ := namesToo
  have joined : name.toList ++ rest.toList = otherName.toList ++ otherRest.toList := by
    rw [← String.toList_append, ← String.toList_append, ← wording, ← otherWording, same]
  exact List.prefix_or_prefix_of_prefix ⟨_, rfl⟩ ⟨_, joined.symm⟩

theorem names_textShape (group option got : String) : (textShape group option got).Names group :=
  ⟨_, message_textShape group option got⟩

theorem names_numberShape (group option got : String) :
    (numberShape group option got).Names group :=
  ⟨_, message_numberShape group option got⟩

theorem names_unknownPolicy (word : String) : (unknownPolicy word).Names "consumer" :=
  ⟨_, message_unknownPolicy word⟩

end SettingsFault

namespace Settings

/-- Whether every fault that a resolution may end in names a group. -/
def Blames {α : Type} (group : String) (resolution : Except SettingsFault α) : Prop :=
  ∀ fault, resolution = .error fault → fault.Names group

namespace Blames

variable {α β : Type} {group : String} {first : Except SettingsFault α}
  {next : α → Except SettingsFault β}

theorem ok (group : String) (value : α) : Blames group (.ok value : Except SettingsFault α) :=
  nofun

theorem error {fault : SettingsFault} (names : fault.Names group) :
    Blames group (.error fault : Except SettingsFault α) := by
  rintro _ ⟨⟩
  exact names

theorem bind (start : Blames group first) (rest : ∀ value, Blames group (next value)) :
    Blames group (first >>= next) := by
  intro fault failed
  cases first with
  | error cause =>
      obtain rfl : cause = fault := Except.error.inj failed
      exact start cause rfl
  | ok value => exact rest value fault failed

end Blames

/-! ## Single options -/

theorem blames_group? (options : Mapping) (group : String) :
    Blames group (group? options group) := by
  unfold group?
  split
  · exact .ok group _
  · exact .ok group _
  · exact .error (SettingsFault.names_sectionShape group _)

theorem blames_text? (entries : Mapping) (group option : String) :
    Blames group (text? entries group option) := by
  unfold text?
  split
  · exact .ok group _
  · split
    · exact .ok group _
    · exact .error (SettingsFault.names_textShape group option _)

theorem blames_number? (entries : Mapping) (group option : String) :
    Blames group (number? entries group option) := by
  unfold number?
  split
  · exact .ok group _
  · split
    · exact .ok group _
    · exact .error (SettingsFault.names_numberShape group option _)

theorem blames_parse (word : String) : Blames "consumer" (StartPolicy.parse word) := by
  unfold StartPolicy.parse
  dsimp only
  split
  · exact .ok _ _
  · split
    · exact .ok _ _
    · split
      · exact .ok _ _
      · exact .error (SettingsFault.names_unknownPolicy _)

/-! ## Groups -/

theorem Producer.blames_resolve (options : Mapping) :
    Blames "producer" (Producer.resolve options) := by
  refine (blames_group? options "producer").bind fun found => ?_
  cases found with
  | none => exact .ok _ _
  | some entries =>
      have text := blames_text? entries "producer"
      have number := blames_number? entries "producer"
      exact (number _).bind fun linger => (number _).bind fun batchSize => (text _).bind fun ack =>
        (number _).bind fun retries => (number _).bind fun bufferSize =>
          (number _).bind fun flushTimeout => .ok _ _

theorem Consumer.blames_resolve (options : Mapping) :
    Blames "consumer" (Consumer.resolve options) := by
  refine (blames_group? options "consumer").bind fun found => ?_
  cases found with
  | none => exact .ok _ _
  | some entries =>
      have text := blames_text? entries "consumer"
      have number := blames_number? entries "consumer"
      refine (text _).bind fun group => (text _).bind fun policyWord => .bind ?_ fun startPolicy =>
        (number _).bind fun bufferSize => (number _).bind fun pollTimeout => .ok _ _
      cases policyWord with
      | none => exact .ok _ _
      | some word => exact (blames_parse word).bind fun policy => .ok _ _

end Settings

end TopicBus
