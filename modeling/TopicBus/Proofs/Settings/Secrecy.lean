import TopicBus.Proofs.Settings.Differences
import TopicBus.Proofs.Settings.Faults
import TopicBus.Proofs.Settings.Properties
import TopicBus.Settings.Shown

/-!
# Passwords

A password is looked at once, between the other settings of the connection and those of the
roles, and it goes nowhere but into its own property: what is shown of the settings and all
other properties are the same whatever the password is. If the options are refused, the fault
tells of the password just what it quotes, which is all of it, if it is a list or a mapping.
-/

namespace TopicBus.Settings

variable {options others : Mapping} {value other : Json}

/-! ## Where a password is looked at -/

/-- The security settings without the password. -/
def Security.withoutPassword (options : Mapping) : Except SettingsFault Security := do
  match ← group? options "security" with
  | none => return .default
  | some entries =>
      let protocol ← text? entries "security" "protocol"
      let mechanism ← text? entries "security" "mechanism"
      let username ← text? entries "security" "username"
      return ⟨protocol, mechanism, username, none⟩

/-- What is resolved before a password is looked at. -/
def Broker.beforePassword (options : Mapping) : Except SettingsFault (String × Security) := do
  let servers ← addresses options
  let security ← Security.withoutPassword options
  return (servers, security)

/-- What is resolved after a password was looked at. -/
def Broker.afterPassword (options : Mapping) : Except SettingsFault (Producer × Consumer) := do
  let producer ← Producer.resolve options
  let consumer ← Consumer.resolve options
  return (producer, consumer)

/-- The text of a password. -/
def passwordText (value : Json) : Except SettingsFault String :=
  match textOf? value with
  | some s => .ok s
  | none => .error (.textShape "security" "password" value.write)

def Broker.withPassword (broker : Broker) (password : String) : Broker :=
  { broker with security := { broker.security with password := some password } }

theorem Security.resolve_of_password (set : optionAt? options "security" "password" = some value) :
    Security.resolve options = (do
      let security ← withoutPassword options
      let password ← passwordText value
      return { security with password := some password }) := by
  unfold Security.resolve withoutPassword
  cases found : group? options "security" with
  | error fault => rfl
  | ok unread =>
      rw [optionAt?_of_group? found] at set
      obtain ⟨entries, rfl, present⟩ := Option.bind_eq_some_iff.mp set
      simp only [bind, Except.bind]
      cases text? entries "security" "protocol" with
      | error fault => rfl
      | ok protocol =>
          cases text? entries "security" "mechanism" with
          | error fault => rfl
          | ok mechanism =>
              cases text? entries "security" "username" with
              | error fault => rfl
              | ok username =>
                  simp only [text?, present, passwordText]
                  cases textOf? value with
                  | none => rfl
                  | some password => rfl

/-- A resolution is that of the parts before the password, of the password, and of the parts
after it. -/
theorem Broker.resolve_of_password (set : optionAt? options "security" "password" = some value) :
    Broker.resolve options = (do
      let (servers, security) ← beforePassword options
      let password ← passwordText value
      let (producer, consumer) ← afterPassword options
      return withPassword ⟨servers, security, producer, consumer⟩ password) := by
  unfold Broker.resolve beforePassword afterPassword
  rw [Security.resolve_of_password set]
  cases addresses options with
  | error fault => rfl
  | ok servers =>
      cases Security.withoutPassword options with
      | error fault => rfl
      | ok security =>
          cases passwordText value with
          | error fault => rfl
          | ok password =>
              cases Producer.resolve options with
              | error fault => rfl
              | ok producer =>
                  cases Consumer.resolve options with
                  | error fault => rfl
                  | ok consumer => rfl

theorem Security.withoutPassword_congr (agree : AgreeBut "security" "password" options others) :
    withoutPassword options = withoutPassword others := by
  obtain ⟨entries, otherEntries, found, foundToo, -, -, alike⟩ := agree.groups
  have protocol := text?_congr (alike "protocol" (by decide)) "security"
  have mechanism := text?_congr (alike "mechanism" (by decide)) "security"
  have username := text?_congr (alike "username" (by decide)) "security"
  simp only [withoutPassword, found, foundToo, bind, Except.bind, protocol, mechanism, username]

theorem Broker.beforePassword_congr (agree : AgreeBut "security" "password" options others) :
    beforePassword options = beforePassword others := by
  rw [beforePassword, agree.addresses_eq (by decide), Security.withoutPassword_congr agree,
    beforePassword]

theorem Broker.afterPassword_congr (agree : AgreeBut "security" "password" options others) :
    afterPassword options = afterPassword others := by
  rw [afterPassword, agree.producer_eq (by decide), agree.consumer_eq (by decide), afterPassword]

/-! ## Refused options -/

/-- Whether options are refused for something that is looked at before the password. -/
def IsRefusedBeforePassword (options : Mapping) : Prop :=
  ∃ fault, Broker.beforePassword options = .error fault

/-- What a fault quotes of a password. A password that stands for a text is no fault. -/
def quotedPassword? (value : Json) : Option String :=
  match textOf? value with
  | some _ => none
  | none => some value.write

/-- The fault of a password that stands for no text, with what it quotes. -/
def passwordFault (quote : String) : SettingsFault :=
  .textShape "security" "password" quote

theorem passwordText_eq_error {fault : SettingsFault} (failed : passwordText value = .error fault) :
    ∃ quote, quotedPassword? value = some quote ∧ fault = passwordFault quote := by
  unfold passwordText at failed
  unfold quotedPassword?
  cases meant : textOf? value with
  | some password =>
      rw [meant] at failed
      cases failed
  | none =>
      rw [meant] at failed
      exact ⟨value.write, rfl, (Except.error.inj failed).symm⟩

theorem passwordText_eq_ok {password : String} (read : passwordText value = .ok password) :
    textOf? value = some password ∧ quotedPassword? value = none := by
  unfold passwordText at read
  unfold quotedPassword?
  cases meant : textOf? value with
  | some text =>
      rw [meant] at read
      exact ⟨congrArg some (Except.ok.inj read), rfl⟩
  | none =>
      rw [meant] at read
      cases read

theorem Broker.resolve_of_beforePassword {fault : SettingsFault}
    (set : optionAt? options "security" "password" = some value)
    (failed : beforePassword options = .error fault) : Broker.resolve options = .error fault := by
  rw [resolve_of_password set, failed]
  rfl

/-- Options are refused before the password, for the password, or after it. -/
theorem Broker.refused_cases {fault : SettingsFault}
    (set : optionAt? options "security" "password" = some value)
    (refused : Broker.resolve options = .error fault) :
    IsRefusedBeforePassword options ∨
      (∃ quote, quotedPassword? value = some quote ∧ fault = passwordFault quote) ∨
      (quotedPassword? value = none ∧ afterPassword options = .error fault) := by
  rw [resolve_of_password set] at refused
  cases before : beforePassword options with
  | error cause => exact .inl ⟨cause, before⟩
  | ok found =>
      rw [before] at refused
      cases read : passwordText value with
      | error cause =>
          rw [read] at refused
          obtain rfl : cause = fault := Except.error.inj refused
          exact .inr (.inl (passwordText_eq_error read))
      | ok password =>
          rw [read] at refused
          cases after : afterPassword options with
          | error cause =>
              rw [after] at refused
              obtain rfl : cause = fault := Except.error.inj refused
              exact .inr (.inr ⟨(passwordText_eq_ok read).2, rfl⟩)
          | ok roles =>
              rw [after] at refused
              cases refused

/-- A fault of what is resolved after the password names the group of a role. -/
theorem Broker.names_of_afterPassword {fault : SettingsFault}
    (failed : afterPassword options = .error fault) :
    fault.Names "producer" ∨ fault.Names "consumer" := by
  unfold afterPassword at failed
  cases resolved : Producer.resolve options with
  | error cause =>
      rw [resolved] at failed
      obtain rfl : cause = fault := Except.error.inj failed
      exact .inl (Producer.blames_resolve options cause resolved)
  | ok producer =>
      cases resolvedToo : Consumer.resolve options with
      | error cause =>
          rw [resolved, resolvedToo] at failed
          obtain rfl : cause = fault := Except.error.inj failed
          exact .inr (Consumer.blames_resolve options cause resolvedToo)
      | ok consumer =>
          rw [resolved, resolvedToo] at failed
          cases failed

/-- The fault of a password is worded like no fault of what is resolved after it. -/
theorem message_passwordFault_ne {quote : String} {fault : SettingsFault}
    (failed : Broker.afterPassword options = .error fault) :
    (passwordFault quote).message ≠ fault.message := by
  intro same
  have security : (passwordFault quote).Names "security" := SettingsFault.names_textShape _ _ _
  rcases Broker.names_of_afterPassword failed with producer | consumer
  · exact absurd (security.prefix_or_prefix producer same) (by decide)
  · exact absurd (security.prefix_or_prefix consumer same) (by decide)

theorem message_passwordFault_inj {quote otherQuote : String} :
    (passwordFault quote).message = (passwordFault otherQuote).message ↔ quote = otherQuote := by
  simp only [passwordFault, SettingsFault.message_textShape, String.append_right_inj]

/--
Of two refusals that differ in the password only, the texts are the same just if something is
refused that is looked at before the password, or the same is quoted of both passwords, which is
nothing for all passwords that stand for a text.
-/
theorem refused_alike_iff {fault otherFault : SettingsFault}
    (agree : AgreeBut "security" "password" options others)
    (set : optionAt? options "security" "password" = some value)
    (setToo : optionAt? others "security" "password" = some other)
    (refused : Broker.resolve options = .error fault)
    (refusedToo : Broker.resolve others = .error otherFault) (label : Payload.Kind → String) :
    (Fault.settings fault).message label = (Fault.settings otherFault).message label ↔
      IsRefusedBeforePassword options ∨ quotedPassword? value = quotedPassword? other := by
  have wording : (Fault.settings fault).message label = (Fault.settings otherFault).message label ↔
      fault.message = otherFault.message := String.append_right_inj _
  have sameBefore := Broker.beforePassword_congr agree
  have sameAfter := Broker.afterPassword_congr agree
  rw [wording]
  by_cases early : IsRefusedBeforePassword options
  · obtain ⟨cause, failed⟩ := early
    rw [Broker.resolve_of_beforePassword set failed] at refused
    rw [sameBefore] at failed
    rw [Broker.resolve_of_beforePassword setToo failed] at refusedToo
    obtain rfl := Except.error.inj refused
    obtain rfl := Except.error.inj refusedToo
    exact iff_of_true rfl (.inl ⟨_, sameBefore ▸ failed⟩)
  · have earlyToo : ¬ IsRefusedBeforePassword others := by
      rwa [IsRefusedBeforePassword, ← sameBefore]
    simp only [early, false_or]
    rcases (Broker.refused_cases set refused).resolve_left early with
      ⟨quote, quoted, rfl⟩ | ⟨unquoted, late⟩
    · rcases (Broker.refused_cases setToo refusedToo).resolve_left earlyToo with
        ⟨otherQuote, quotedToo, rfl⟩ | ⟨unquotedToo, lateToo⟩
      · rw [message_passwordFault_inj, quoted, quotedToo, Option.some_inj]
      · rw [quoted, unquotedToo]
        exact iff_of_false (message_passwordFault_ne lateToo) nofun
    · rcases (Broker.refused_cases setToo refusedToo).resolve_left earlyToo with
        ⟨otherQuote, quotedToo, rfl⟩ | ⟨unquotedToo, lateToo⟩
      · rw [unquoted, quotedToo]
        exact iff_of_false (message_passwordFault_ne late).symm nofun
      · rw [sameAfter, lateToo] at late
        obtain rfl := Except.error.inj late
        exact iff_of_true rfl (unquoted.trans unquotedToo.symm)

/-- A number and a text as passwords, beside a policy that there is not. -/
theorem refused_alike_of_texts :
    let options (password : Json) : Mapping :=
      Mapping.insert "security" (.mapping (Mapping.insert "password" password []))
        [("brokers", .text "a"), ("consumer", .mapping [("auto_offset_reset", .text "soon")])]
    let number : Json := .number (.natural 7)
    let text : Json := .text "hunter2"
    AgreeBut "security" "password" (options number) (options text) ∧
      optionAt? (options number) "security" "password" = some number ∧
      optionAt? (options text) "security" "password" = some text ∧
      Broker.resolve (options number) = .error (.unknownPolicy "soon") ∧
      Broker.resolve (options text) = .error (.unknownPolicy "soon") ∧
      quotedPassword? number = quotedPassword? text := by
  intro options number text
  have agree : AgreeBut "security" "password" (options number) (options text) := .of_insert ..
  have refused : Broker.resolve (options number) = .error (.unknownPolicy "soon") := rfl
  have refusedToo : Broker.resolve (options text) = .error (.unknownPolicy "soon") := rfl
  have passed : ¬ IsRefusedBeforePassword (options number) := by
    rintro ⟨fault, failed⟩
    cases failed
  have alike := refused_alike_iff agree rfl rfl refused refusedToo fun _ => "kind"
  exact ⟨agree, rfl, rfl, refused, refusedToo, (alike.mp rfl).resolve_left passed⟩

/-- Two lists as passwords, each of which is quoted in full. -/
theorem refusal_quotes_password :
    let options (password : Json) : Mapping :=
      Mapping.insert "security" (.mapping (Mapping.insert "password" password []))
        [("brokers", .text "a")]
    let secret : Json := .list [.text "hunter2"]
    AgreeBut "security" "password" (options secret) (options (.list [])) ∧
      optionAt? (options secret) "security" "password" = some secret ∧
      optionAt? (options (.list [])) "security" "password" = some (.list []) ∧
      Broker.resolve (options secret) = .error (passwordFault "[\"hunter2\"]") ∧
      Broker.resolve (options (.list [])) = .error (passwordFault "[]") ∧
      ∀ label, (Fault.settings (passwordFault "[\"hunter2\"]")).message label ≠
        (Fault.settings (passwordFault "[]")).message label := by
  intro options secret
  refine ⟨.of_insert .., rfl, rfl, rfl, rfl, fun label same => ?_⟩
  have quotes := message_passwordFault_inj.mp ((String.append_right_inj _).mp same)
  exact absurd quotes (by decide)

/-! ## Accepted options -/

/-- Settings are shown alike with any two passwords. -/
theorem Broker.shown_withPassword (broker : Broker) (password otherPassword : String) :
    (broker.withPassword password).shown = (broker.withPassword otherPassword).shown :=
  rfl

/-- Whatever the password is, it is given under its own name or not at all. -/
theorem Broker.property?_withPassword (broker : Broker) (password otherPassword : String)
    {name : String}
    (different : name ≠ "sasl.password") :
    (broker.withPassword password).property? name =
      (broker.withPassword otherPassword).property? name := by
  unfold Broker.property?
  split
  case h_5 => exact absurd rfl different
  all_goals rfl

theorem Broker.lookup_properties_withPassword (broker : Broker) (password otherPassword : String)
    (role : Role) {name : String} (different : name ≠ "sasl.password") :
    ((broker.withPassword password).properties role).lookup name =
      ((broker.withPassword otherPassword).properties role).lookup name := by
  rw [lookup_properties, lookup_properties,
    property?_withPassword broker password otherPassword different]

theorem Broker.names_properties_withPassword (broker : Broker) (password otherPassword : String)
    (role : Role) :
    ((broker.withPassword password).properties role).map Prod.fst =
      ((broker.withPassword otherPassword).properties role).map Prod.fst := by
  have credentials : (broker.withPassword password).security.properties.map Prod.fst =
      (broker.withPassword otherPassword).security.properties.map Prod.fst := by
    simp only [Security.properties, withPassword]
    cases broker.security.mechanism with
    | none => rfl
    | some mechanism => simp [optionalProperty]
  simp only [properties, List.map_cons, List.map_append, List.cons_append, credentials]
  rfl

/-- What is accepted with one password is accepted with any other that stands for a text. -/
theorem Broker.eq_withPassword_of_resolve {broker : Broker}
    (set : optionAt? options "security" "password" = some value)
    (accepted : Broker.resolve options = .ok broker) :
    ∃ password servers security producer consumer, textOf? value = some password ∧
      beforePassword options = .ok (servers, security) ∧
      afterPassword options = .ok (producer, consumer) ∧
      broker = withPassword ⟨servers, security, producer, consumer⟩ password := by
  rw [resolve_of_password set] at accepted
  obtain ⟨⟨servers, security⟩, before, accepted⟩ := exists_of_bind_eq_ok accepted
  obtain ⟨password, read, accepted⟩ := exists_of_bind_eq_ok accepted
  obtain ⟨⟨producer, consumer⟩, after, accepted⟩ := exists_of_bind_eq_ok accepted
  exact ⟨password, servers, security, producer, consumer, (passwordText_eq_ok read).1, before,
    after,
    (Except.ok.inj accepted).symm⟩

/--
Of two accepted options that differ in the password only, the settings are the same but for the
text of the password, they are shown alike, and each client is given the same properties, but
for the value of its password.
-/
theorem password_unnoticed {broker otherBroker : Broker}
    (agree : AgreeBut "security" "password" options others)
    (set : optionAt? options "security" "password" = some value)
    (setToo : optionAt? others "security" "password" = some other)
    (accepted : Broker.resolve options = .ok broker)
    (acceptedToo : Broker.resolve others = .ok otherBroker) :
    broker.shown = otherBroker.shown ∧
      broker.security.password = textOf? value ∧
      otherBroker = { broker with security := { broker.security with password := textOf? other } } ∧
      ∀ role : Role,
        (broker.properties role).map Prod.fst = (otherBroker.properties role).map Prod.fst ∧
        ∀ name, name ≠ "sasl.password" →
          (broker.properties role).lookup name = (otherBroker.properties role).lookup name := by
  obtain ⟨password, servers, security, producer, consumer, meant, before, after, rfl⟩ :=
    Broker.eq_withPassword_of_resolve set accepted
  obtain ⟨otherPassword, otherServers, otherSecurity, otherProducer, otherConsumer, meantToo,
    beforeToo, afterToo, rfl⟩ := Broker.eq_withPassword_of_resolve setToo acceptedToo
  rw [← Broker.beforePassword_congr agree, before] at beforeToo
  rw [← Broker.afterPassword_congr agree, after] at afterToo
  cases beforeToo
  cases afterToo
  refine ⟨Broker.shown_withPassword _ password otherPassword, meant.symm, ?_, fun role => ⟨?_, ?_⟩⟩
  · rw [meantToo]
    rfl
  · exact Broker.names_properties_withPassword _ password otherPassword role
  · intro name different
    exact Broker.lookup_properties_withPassword _ password otherPassword role different

/-- A truth value and a text as passwords, which both clients are given beside the same name of
a user. -/
theorem password_unnoticed_of_truth_value :
    let options (password : Json) : Mapping :=
      Mapping.insert "security"
        (.mapping (Mapping.insert "password" password
          [("mechanism", .text "PLAIN"), ("username", .text "u")]))
        [("brokers", .text "a")]
    let broker (password : String) : Broker :=
      { Broker.ofServers "a" with security := ⟨none, some "PLAIN", some "u", some password⟩ }
    AgreeBut "security" "password" (options (.bool true)) (options (.text "hunter2")) ∧
      optionAt? (options (.bool true)) "security" "password" = some (.bool true) ∧
      optionAt? (options (.text "hunter2")) "security" "password" = some (.text "hunter2") ∧
      Broker.resolve (options (.bool true)) = .ok (broker "true") ∧
      Broker.resolve (options (.text "hunter2")) = .ok (broker "hunter2") ∧
      (broker "true").shown = (broker "hunter2").shown ∧
      ((broker "true").properties .consumer).map Prod.fst =
        ((broker "hunter2").properties .consumer).map Prod.fst ∧
      ((broker "true").properties .consumer).lookup "sasl.username" =
        ((broker "hunter2").properties .consumer).lookup "sasl.username" ∧
      ((broker "true").properties .consumer).lookup "sasl.password" = some "true" := by
  intro options broker
  have agree : AgreeBut "security" "password" (options (.bool true)) (options (.text "hunter2")) :=
    .of_insert ..
  have accepted : Broker.resolve (options (.bool true)) = .ok (broker "true") := rfl
  have acceptedToo : Broker.resolve (options (.text "hunter2")) = .ok (broker "hunter2") := rfl
  obtain ⟨shown, -, -, properties⟩ := password_unnoticed agree rfl rfl accepted acceptedToo
  obtain ⟨names, values⟩ := properties .consumer
  exact ⟨agree, rfl, rfl, accepted, acceptedToo, shown, names,
    values "sasl.username" (by decide), rfl⟩

end TopicBus.Settings
