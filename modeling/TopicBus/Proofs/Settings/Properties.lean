import TopicBus.Proofs.Settings.Readings
import TopicBus.Proofs.Settings.Resolution
import TopicBus.Settings.Properties

/-!
# Properties by name

A client is given properties by name, each of them at most once, so that its properties are a
table of values by name. Besides the addresses and the security of the connection there are only
properties of its own role in it, whatever the settings of the other role are. A number of a
producer is passed on just if it is set, and not to zero: a zero that was asked for is lost on the
way, and the client goes on with a default of its own.
-/

namespace TopicBus.Settings

/-! ## Tables -/

/-- The properties of the given names that have a value. -/
def tabulate (value : String → Option String) (names : List String) : Properties :=
  names.flatMap fun name => optionalProperty name (value name)

theorem lookup_tabulate (value : String → Option String) (names : List String) (name : String) :
    (tabulate value names).lookup name = if name ∈ names then value name else none := by
  induction names with
  | nil => rfl
  | cons first others inductionHypothesis =>
      rw [tabulate, List.flatMap_cons, List.lookup_append, ← tabulate, inductionHypothesis]
      by_cases here : name = first
      · subst here
        cases value name with
        | none => simp [optionalProperty]
        | some text => simp [optionalProperty]
      · have elsewhere : (optionalProperty first (value first)).lookup name = none := by
          cases value first with
          | none => rfl
          | some text => simp [optionalProperty, List.lookup_cons, beq_false_of_ne here]
        rw [elsewhere, Option.none_or]
        simp [here]

theorem names_tabulate_sublist (value : String → Option String) (names : List String) :
    ((tabulate value names).map Prod.fst).Sublist names := by
  induction names with
  | nil => exact List.Sublist.refl []
  | cons first others inductionHypothesis =>
      rw [tabulate, List.flatMap_cons, List.map_append, ← tabulate]
      cases value first with
      | none => exact inductionHypothesis.cons first
      | some text => exact inductionHypothesis.cons_cons first

/-! ## The table of a client -/

/-- The properties of a client of any role. -/
def connectionNames : List String :=
  ["bootstrap.servers", "security.protocol", "sasl.mechanism", "sasl.username", "sasl.password"]

/-- The properties of a client of one role only. -/
def Role.propertyNames : Role → List String
  | .producer => ["acks", "retries", "linger.ms", "batch.num.messages"]
  | .consumer => ["group.id", "auto.offset.reset", "enable.auto.commit", "enable.partition.eof"]

/-- A number as a property, if it is not zero. -/
def positive? (n : Nat) : Option String :=
  if n = 0 then none else some (Decimal.natural n)

/-- The value of a property, by its name. -/
def Broker.property? (broker : Broker) : String → Option String
  | "bootstrap.servers" => some broker.servers
  | "security.protocol" => broker.security.protocol
  | "sasl.mechanism" => broker.security.mechanism
  | "sasl.username" => broker.security.mechanism.bind fun _ => broker.security.username
  | "sasl.password" => broker.security.mechanism.bind fun _ => broker.security.password
  | "acks" => broker.producer.ack
  | "retries" => positive? broker.producer.retries
  | "linger.ms" => positive? broker.producer.linger
  | "batch.num.messages" => positive? (broker.producer.batchSize.getD 0)
  | "group.id" => broker.consumer.group
  | "auto.offset.reset" => broker.consumer.startPolicy.map StartPolicy.word
  | "enable.auto.commit" => some "false"
  | "enable.partition.eof" => some "false"
  | _ => none

theorem positiveProperty_eq (name : String) (n : Nat) :
    positiveProperty name n = optionalProperty name (positive? n) := by
  unfold positiveProperty positive?
  by_cases zero : n = 0
  · rw [if_pos zero, if_pos zero, optionalProperty]
  · rw [if_neg zero, if_neg zero, optionalProperty]

theorem Security.properties_eq (broker : Broker) :
    broker.security.properties = tabulate broker.property?
      ["security.protocol", "sasl.mechanism", "sasl.username", "sasl.password"] := by
  simp only [Security.properties, tabulate, List.flatMap_cons, List.flatMap_nil, List.append_nil,
    Broker.property?]
  cases broker.security.mechanism with
  | none => rfl
  | some mechanism => rfl

theorem Producer.properties_eq (broker : Broker) :
    broker.producer.properties = tabulate broker.property? Role.producer.propertyNames := by
  simp only [Producer.properties, positiveProperty_eq, Role.propertyNames, tabulate,
    List.flatMap_cons, List.flatMap_nil, List.append_nil, List.append_assoc, Broker.property?]

theorem Consumer.properties_eq (broker : Broker) :
    broker.consumer.properties = tabulate broker.property? Role.consumer.propertyNames := by
  simp only [Consumer.properties, Role.propertyNames, tabulate, List.flatMap_cons,
    List.flatMap_nil, List.append_nil, List.append_assoc, Broker.property?]
  rfl

/-- The properties of a client are the table of their values. -/
theorem Broker.properties_eq (broker : Broker) (role : Role) :
    broker.properties role =
      tabulate broker.property? (connectionNames ++ role.propertyNames) := by
  unfold Broker.properties
  rw [Security.properties_eq]
  cases role with
  | producer =>
      simp only [Producer.properties_eq, tabulate, List.flatMap_append]
      rfl
  | consumer =>
      simp only [Consumer.properties_eq, tabulate, List.flatMap_append]
      rfl

theorem Broker.lookup_properties (broker : Broker) (role : Role) (name : String) :
    (broker.properties role).lookup name =
      if name ∈ connectionNames ++ role.propertyNames then broker.property? name else none := by
  rw [Broker.properties_eq, lookup_tabulate]

theorem Broker.names_properties_sublist (broker : Broker) (role : Role) :
    ((broker.properties role).map Prod.fst).Sublist (connectionNames ++ role.propertyNames) := by
  rw [Broker.properties_eq]
  exact names_tabulate_sublist _ _

/-! ## Numbers of a producer -/

/-- The options that tune a producer, each with the property that it is passed on as. -/
def tuningProperties : List (String × String) :=
  [("retries", "retries"), ("linger_ms", "linger.ms"), ("batch_size", "batch.num.messages")]

theorem positive?_getD_zero (found : Option Nat) :
    positive? (found.getD 0) = found.bind positive? := by
  cases found with
  | none => rfl
  | some n => rfl

theorem positive?_eq_none_iff {n : Nat} : positive? n = none ↔ n = 0 := by
  unfold positive?
  by_cases zero : n = 0
  · simp [zero]
  · simp [zero]

theorem lookup_tuning {options : Mapping} {broker : Broker}
    (resolved : Producer.resolve options = .ok broker.producer) {option property : String}
    (tuning : (option, property) ∈ tuningProperties) :
    (broker.properties .producer).lookup property =
      (numberAt? options "producer" option).bind positive? := by
  have settings := (Producer.eq_ofOptions resolved).1
  have ofProducer : ∀ pair ∈ tuningProperties, pair.2 ∈ Role.producer.propertyNames := by decide
  rw [Broker.lookup_properties, if_pos (List.mem_append_right _ (ofProducer _ tuning)),
    ← positive?_getD_zero]
  simp only [tuningProperties, List.mem_cons, Prod.mk.injEq, List.not_mem_nil, or_false] at tuning
  rcases tuning with ⟨rfl, rfl⟩ | ⟨rfl, rfl⟩ | ⟨rfl, rfl⟩
  · rw [Broker.property?, settings]
    rfl
  · rw [Broker.property?, settings]
    rfl
  · rw [Broker.property?, settings]
    rfl

/--
A tuning option that is set stands for a number, which is passed on as it is unless it is zero.
The client is left with a default of its own just if the option is not set, or set to zero.
-/
theorem tuning_passed_on {options : Mapping} {broker : Broker}
    (accepted : Broker.resolve options = .ok broker) {option property : String}
    (tuning : (option, property) ∈ tuningProperties) :
    (∀ value, optionAt? options "producer" option = some value →
        ∃ n, numberOf? value = some n ∧
          (0 < n → (broker.properties .producer).lookup property = some (Decimal.natural n))) ∧
      ((broker.properties .producer).lookup property = none ↔
        optionAt? options "producer" option = none ∨
          numberAt? options "producer" option = some 0) := by
  obtain ⟨-, -, resolved, -⟩ := Broker.resolve_eq_ok_iff.mp accepted
  have number : IsReadable numberOf? options "producer" option := by
    apply (Producer.eq_ofOptions resolved).2
    have among : ∀ pair ∈ tuningProperties, pair.1 ∈ Producer.numbers := by decide
    exact among _ tuning
  rw [lookup_tuning resolved tuning, numberAt?]
  cases set : optionAt? options "producer" option with
  | none => simp
  | some value =>
      obtain ⟨n, known⟩ := number value set
      have positive : 0 < n → positive? n = some (Decimal.natural n) := fun positive =>
        if_neg (Nat.ne_of_gt positive)
      simpa [known, positive?_eq_none_iff] using positive

/-- Three retries, in a text with blanks and a sign around them, and no linger. -/
theorem tuning_passed_on_of_text :
    let options : Mapping :=
      [("brokers", .text "a"), ("producer", .mapping [("retries", .text " +3 ")])]
    let broker : Broker :=
      { Broker.ofServers "a" with producer := { Producer.default with retries := 3 } }
    Broker.resolve options = .ok broker ∧ ("retries", "retries") ∈ tuningProperties ∧
      optionAt? options "producer" "retries" = some (.text " +3 ") ∧
      (broker.properties .producer).lookup "retries" = some (Decimal.natural 3) ∧
      (broker.properties .producer).lookup "linger.ms" = none := by
  intro options broker
  have accepted : Broker.resolve options = .ok broker := rfl
  have tuning : ("retries", "retries") ∈ tuningProperties := by decide
  have set : optionAt? options "producer" "retries" = some (.text " +3 ") := rfl
  obtain ⟨n, known, passedOn⟩ := (tuning_passed_on accepted tuning).1 _ set
  have three : numberOf? (.text " +3 ") = some 3 := rfl
  obtain rfl : 3 = n := Option.some.inj (three.symm.trans known)
  have untuned : ("linger_ms", "linger.ms") ∈ tuningProperties := by decide
  exact ⟨accepted, tuning, set, passedOn (by decide),
    (tuning_passed_on accepted untuned).2.mpr (.inl rfl)⟩

/-- Options that are set to zero, of which the client hears nothing: it is neither kept from
lingering nor from trying again. -/
theorem zero_not_passed_on :
    let options : Mapping :=
      [("brokers", .text "a"),
        ("producer", .mapping
          [("batch_size", .number (.natural 0)), ("linger_ms", .number (.natural 0)),
            ("retries", .number (.natural 0))])]
    let broker : Broker :=
      { Broker.ofServers "a" with producer := { Producer.default with batchSize := some 0 } }
    Broker.resolve options = .ok broker ∧
      ∀ pair ∈ tuningProperties, numberAt? options "producer" pair.1 = some 0 ∧
        (broker.properties .producer).lookup pair.2 = none := by
  intro options broker
  refine ⟨rfl, fun pair tuning => ?_⟩
  simp only [tuningProperties, List.mem_cons, List.not_mem_nil, or_false] at tuning
  rcases tuning with rfl | rfl | rfl
  · exact ⟨rfl, rfl⟩
  · exact ⟨rfl, rfl⟩
  · exact ⟨rfl, rfl⟩

/-! ## Roles -/

/-- The keys of the options that a client of a role is made from. -/
def Role.optionKeys : Role → List String
  | .producer => ["brokers", "security", "producer"]
  | .consumer => ["brokers", "security", "consumer"]

def Role.other : Role → Role
  | .producer => .consumer
  | .consumer => .producer

theorem Broker.properties_congr {options others : Mapping} {broker other : Broker} {role : Role}
    (resolved : Broker.resolve options = .ok broker)
    (resolvedToo : Broker.resolve others = .ok other)
    (agree : ∀ key ∈ role.optionKeys, options.get? key = others.get? key) :
    broker.properties role = other.properties role := by
  obtain ⟨listed, security, producer, consumer⟩ := Broker.resolve_eq_ok_iff.mp resolved
  obtain ⟨listedToo, securityToo, producerToo, consumerToo⟩ :=
    Broker.resolve_eq_ok_iff.mp resolvedToo
  have sameServers : broker.servers = other.servers := by
    rw [addresses_congr (agree "brokers" (by cases role <;> decide)), listedToo] at listed
    exact (Except.ok.inj listed).symm
  have sameSecurity : broker.security = other.security := by
    rw [Security.resolve_congr (agree "security" (by cases role <;> decide)),
      securityToo] at security
    exact (Except.ok.inj security).symm
  cases role with
  | producer =>
      rw [Producer.resolve_congr (agree "producer" (by decide)), producerToo] at producer
      simp only [Broker.properties, sameServers, sameSecurity, Except.ok.inj producer]
  | consumer =>
      rw [Consumer.resolve_congr (agree "consumer" (by decide)), consumerToo] at consumer
      simp only [Broker.properties, sameServers, sameSecurity, Except.ok.inj consumer]

theorem not_mem_names_of_other (broker : Broker) (role : Role) {name : String}
    (foreign : name ∈ role.other.propertyNames) :
    name ∉ (broker.properties role).map Prod.fst := by
  have apart : ∀ name ∈ role.other.propertyNames, name ∉ connectionNames ++ role.propertyNames := by
    cases role <;> decide
  intro member
  exact apart name foreign ((broker.names_properties_sublist role).subset member)

theorem nodup_names_properties (broker : Broker) (role : Role) :
    ((broker.properties role).map Prod.fst).Nodup := by
  have nodup : (connectionNames ++ role.propertyNames).Nodup := by
    cases role <;> decide
  exact nodup.sublist (broker.names_properties_sublist role)

/--
What a client is given depends on the options of its own role only. Each property is given once,
and none that belongs to the other role. Consumers never commit on their own. Credentials are
given as they are resolved, and just beside a mechanism.
-/
theorem roles_kept_apart {options : Mapping} {broker : Broker}
    (accepted : Broker.resolve options = .ok broker) :
    (∀ (role : Role) (others : Mapping) (other : Broker), Broker.resolve others = .ok other →
        (∀ key ∈ role.optionKeys, others.get? key = options.get? key) →
        other.properties role = broker.properties role) ∧
      (∀ role : Role, ((broker.properties role).map Prod.fst).Nodup ∧
        ∀ name ∈ role.other.propertyNames, name ∉ (broker.properties role).map Prod.fst) ∧
      ((broker.properties .consumer).lookup "enable.auto.commit" = some "false" ∧
        (broker.properties .consumer).lookup "enable.partition.eof" = some "false") ∧
      broker.security = Security.ofOptions options ∧
      ∀ role : Role,
        (broker.properties role).lookup "sasl.mechanism" = broker.security.mechanism ∧
        (broker.properties role).lookup "sasl.username" =
          (broker.security.mechanism.bind fun _ => broker.security.username) ∧
        (broker.properties role).lookup "sasl.password" =
          (broker.security.mechanism.bind fun _ => broker.security.password) := by
  have inConnection : ∀ (role : Role) {name : String}, name ∈ connectionNames →
      (broker.properties role).lookup name = broker.property? name := by
    intro role name member
    rw [Broker.lookup_properties, if_pos (List.mem_append_left _ member)]
  refine ⟨?_, ?_, ⟨?_, ?_⟩, ?_, ?_⟩
  · intro role others other acceptedToo agree
    exact Broker.properties_congr acceptedToo accepted agree
  · intro role
    exact ⟨nodup_names_properties broker role, fun _ => not_mem_names_of_other broker role⟩
  · rw [Broker.lookup_properties, if_pos (by decide), Broker.property?]
  · rw [Broker.lookup_properties, if_pos (by decide), Broker.property?]
  · exact Security.eq_ofOptions (Broker.resolve_eq_ok_iff.mp accepted).2.1
  · intro role
    refine ⟨?_, ?_, ?_⟩
    · rw [inConnection role (by decide), Broker.property?]
    · rw [inConnection role (by decide), Broker.property?]
    · rw [inConnection role (by decide), Broker.property?]

/-- A connection with half of its credentials, made with and without a group. -/
theorem roles_kept_apart_of_group :
    let security : String × Json :=
      ("security", .mapping [("mechanism", .text "PLAIN"), ("username", .text "u")])
    let options : Mapping :=
      [("brokers", .text "a"), ("consumer", .mapping [("group_id", .text "g")]), security]
    let others : Mapping := [("brokers", .text "a"), security]
    let other : Broker :=
      { Broker.ofServers "a" with security := ⟨none, some "PLAIN", some "u", none⟩ }
    let broker : Broker := { other with consumer := { Consumer.default with group := some "g" } }
    Broker.resolve options = .ok broker ∧ Broker.resolve others = .ok other ∧
      (∀ key ∈ Role.producer.optionKeys, others.get? key = options.get? key) ∧
      other.properties .producer = broker.properties .producer ∧
      (broker.properties .consumer).lookup "enable.auto.commit" = some "false" ∧
      (broker.properties .producer).lookup "sasl.username" = some "u" ∧
      (broker.properties .producer).lookup "sasl.password" = none := by
  intro security options others other broker
  have accepted : Broker.resolve options = .ok broker := rfl
  have acceptedToo : Broker.resolve others = .ok other := rfl
  have agree : ∀ key ∈ Role.producer.optionKeys, others.get? key = options.get? key := by
    intro key member
    rcases member with _ | ⟨_, _ | ⟨_, _ | ⟨_, ⟨⟩⟩⟩⟩
    · rfl
    · rfl
    · rfl
  obtain ⟨independent, -, ⟨manual, -⟩, -, credentials⟩ := roles_kept_apart accepted
  obtain ⟨-, username, password⟩ := credentials .producer
  exact ⟨accepted, acceptedToo, agree, independent .producer others other acceptedToo agree,
    manual, username, password⟩

end TopicBus.Settings
