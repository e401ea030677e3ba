import TopicBus.Bus.Factory
import TopicBus.Proofs.Settings.Resolution

/-!
# Why an instance is not made

An instance is made from a setup in a fixed order: the backend, the options, the client and the
binding of the payload kind. The first of these that is wrong is reported, whatever the library of
the client accepts. With the broker inside the process, no options are looked at but those of the
instance's own role.
-/

namespace TopicBus

open Payload (Kind)

/-! ## The driver -/

namespace Setup

variable {setup : Setup}

theorem backend_memory (memory : Text.fold setup.driver = "memory") :
    setup.backend = .ok .memory := by
  rw [backend, Backend.parse, memory]
  rfl

theorem backend_kafka (kafka : Text.fold setup.driver = "kafka") : setup.backend = .ok .kafka := by
  rw [backend, Backend.parse, kafka]
  rfl

theorem backend_unsupported (unlikeKafka : Text.fold setup.driver ≠ "kafka")
    (unlikeMemory : Text.fold setup.driver ≠ "memory") :
    setup.backend = .error (.unsupportedDriver setup.driver) := by
  rw [backend, Backend.parse]
  exact (if_neg unlikeKafka).trans (if_neg unlikeMemory)

end Setup

/-! ## The binding of a kind -/

namespace Registry

variable {registry : Registry} {kind : Kind}

theorem topic_of_lookup? {name : String} (bound : registry.lookup? kind = some name) :
    registry.topic kind = .ok ⟨kind, name⟩ := by
  rw [topic, nameOf, bound]
  rfl

theorem topic_of_unbound (unbound : registry.lookup? kind = none) :
    registry.topic kind = .error (.unregistered kind) := by
  rw [topic, nameOf, unbound]
  rfl

theorem topic_congr {other : Registry} (same : registry.lookup? kind = other.lookup? kind) :
    registry.topic kind = other.topic kind := by
  rw [topic, topic, nameOf, nameOf, same]

end Registry

/-! ## Making in general -/

/-- How the instances of a role are made: where their settings come from, and what they are put
together from. -/
structure Making (σ ρ ι : Type) where
  role : Settings.Role
  /-- The group of the options with the settings of the role. -/
  group : String
  settings : Mapping → Except SettingsFault σ
  /-- No other options are looked at. -/
  settings_congr : ∀ {options others : Mapping}, options.get? group = others.get? group →
    settings options = settings others
  ofMemory : σ → ρ
  ofRemote : Settings.Broker → ρ
  create : Topic → ρ → String → ι

namespace Making

variable {σ ρ ι : Type} (making : Making σ ρ ι) (obstacle? : Settings.Obstacles)

/-- What an instance is put together from with a backend and the options for it. -/
def parts (options : Mapping) : Backend → Except Fault ρ
  | .memory => ((making.settings options).mapError .settings).map making.ofMemory
  | .kafka => (Settings.Broker.forClient obstacle? options making.role).map making.ofRemote

/-- An instance, or why it is not made. -/
def make (registry : Registry) (kind : Kind) (setup : Setup) (scope : String) : Except Fault ι := do
  let backend ← setup.backend
  let parts ← making.parts obstacle? setup.options backend
  let topic ← (registry.topic kind).mapError .registry
  return making.create topic parts scope

/-- The order in which the making of instances fails, and what it looks at. -/
structure FailsInOrder (make : Registry → Kind → Setup → String → Except Fault ι) : Prop where
  /-- An unknown driver is reported, whatever else there is. -/
  unsupported : ∀ registry kind setup scope,
    Text.fold setup.driver ≠ "kafka" → Text.fold setup.driver ≠ "memory" →
      make registry kind setup scope = .error (.unsupportedDriver setup.driver)
  /-- Inside the process, the group of the role and the binding of the kind decide. -/
  memory_congr : ∀ registry otherRegistry kind setup other scope,
    Text.fold setup.driver = "memory" → Text.fold other.driver = "memory" →
    setup.options.get? making.group = other.options.get? making.group →
    registry.lookup? kind = otherRegistry.lookup? kind →
      make registry kind setup scope = make otherRegistry kind other scope
  /-- A fault of the settings comes before that of a kind without a topic. -/
  memory_settings : ∀ registry kind setup scope cause,
    Text.fold setup.driver = "memory" → making.settings setup.options = .error cause →
      make registry kind setup scope = .error (.settings cause)
  memory_unregistered : ∀ registry kind setup scope settings,
    Text.fold setup.driver = "memory" → making.settings setup.options = .ok settings →
    registry.lookup? kind = none →
      make registry kind setup scope = .error (.registry (.unregistered kind))
  memory_made : ∀ registry kind setup scope settings name,
    Text.fold setup.driver = "memory" → making.settings setup.options = .ok settings →
    registry.lookup? kind = some name →
      make registry kind setup scope =
        .ok (making.create ⟨kind, name⟩ (making.ofMemory settings) scope)
  /-- A fault of any settings comes first, whatever the client and the registry are. -/
  kafka_settings : ∀ registry kind setup scope cause,
    Text.fold setup.driver = "kafka" → Settings.Broker.resolve setup.options = .error cause →
      make registry kind setup scope = .error (.settings cause)
  /-- Then the client is created, whatever the registry is. -/
  kafka_connection : ∀ registry kind setup scope broker obstacle,
    Text.fold setup.driver = "kafka" → Settings.Broker.resolve setup.options = .ok broker →
    obstacle? broker making.role = some obstacle →
      make registry kind setup scope = .error (.connection obstacle)
  kafka_unregistered : ∀ registry kind setup scope broker,
    Text.fold setup.driver = "kafka" → Settings.Broker.resolve setup.options = .ok broker →
    obstacle? broker making.role = none → registry.lookup? kind = none →
      make registry kind setup scope = .error (.registry (.unregistered kind))
  kafka_made : ∀ registry kind setup scope broker name,
    Text.fold setup.driver = "kafka" → Settings.Broker.resolve setup.options = .ok broker →
    obstacle? broker making.role = none → registry.lookup? kind = some name →
      make registry kind setup scope =
        .ok (making.create ⟨kind, name⟩ (making.ofRemote broker) scope)

/-! ## Stage by stage -/

section

variable {obstacle? : Settings.Obstacles} {registry : Registry} {kind : Kind} {setup : Setup}
  {scope : String} {options : Mapping}

theorem parts_memory {settings : σ} (resolved : making.settings options = .ok settings) :
    making.parts obstacle? options .memory = .ok (making.ofMemory settings) := by
  rw [parts, resolved]
  rfl

theorem parts_kafka {broker : Settings.Broker}
    (resolved : Settings.Broker.resolve options = .ok broker)
    (free : obstacle? broker making.role = none) :
    making.parts obstacle? options .kafka = .ok (making.ofRemote broker) := by
  simp only [parts, Settings.Broker.forClient, resolved, free]
  rfl

theorem make_of_backend {backend : Backend} (known : setup.backend = .ok backend) :
    making.make obstacle? registry kind setup scope = (do
      let parts ← making.parts obstacle? setup.options backend
      let topic ← (registry.topic kind).mapError .registry
      return making.create topic parts scope) := by
  rw [make, known]
  rfl

theorem make_of_parts {backend : Backend} {parts : ρ} (known : setup.backend = .ok backend)
    (resolved : making.parts obstacle? setup.options backend = .ok parts) :
    making.make obstacle? registry kind setup scope =
      ((registry.topic kind).mapError .registry).map fun topic =>
        making.create topic parts scope := by
  rw [making.make_of_backend known, resolved]
  cases registry.topic kind <;> rfl

theorem make_of_fault {backend : Backend} {fault : Fault} (known : setup.backend = .ok backend)
    (failed : making.parts obstacle? setup.options backend = .error fault) :
    making.make obstacle? registry kind setup scope = .error fault := by
  rw [making.make_of_backend known, failed]
  rfl

end

theorem failsInOrder : making.FailsInOrder obstacle? (making.make obstacle?) where
  unsupported registry kind setup scope unlikeKafka unlikeMemory := by
    rw [make, Setup.backend_unsupported unlikeKafka unlikeMemory]
    rfl
  memory_congr registry otherRegistry kind setup other scope memory memoryToo sameGroup
      sameBinding := by
    have parts : making.parts obstacle? setup.options .memory =
        making.parts obstacle? other.options .memory := by
      rw [Making.parts, Making.parts, making.settings_congr sameGroup]
    rw [making.make_of_backend (Setup.backend_memory memory),
      making.make_of_backend (Setup.backend_memory memoryToo), parts,
      Registry.topic_congr sameBinding]
  memory_settings registry kind setup scope cause memory failed := by
    refine making.make_of_fault (Setup.backend_memory memory) ?_
    rw [parts, failed]
    rfl
  memory_unregistered registry kind setup scope settings memory resolved unbound := by
    rw [making.make_of_parts (Setup.backend_memory memory) (making.parts_memory resolved),
      Registry.topic_of_unbound unbound]
    rfl
  memory_made registry kind setup scope settings name memory resolved bound := by
    rw [making.make_of_parts (Setup.backend_memory memory) (making.parts_memory resolved),
      Registry.topic_of_lookup? bound]
    rfl
  kafka_settings registry kind setup scope cause kafka failed := by
    refine making.make_of_fault (Setup.backend_kafka kafka) ?_
    rw [parts, Settings.Broker.forClient, failed]
    rfl
  kafka_connection registry kind setup scope broker obstacle kafka resolved stands := by
    refine making.make_of_fault (Setup.backend_kafka kafka) ?_
    simp only [parts, Settings.Broker.forClient, resolved, stands]
    rfl
  kafka_unregistered registry kind setup scope broker kafka resolved free unbound := by
    rw [making.make_of_parts (Setup.backend_kafka kafka) (making.parts_kafka resolved free),
      Registry.topic_of_unbound unbound]
    rfl
  kafka_made registry kind setup scope broker name kafka resolved free bound := by
    rw [making.make_of_parts (Setup.backend_kafka kafka) (making.parts_kafka resolved free),
      Registry.topic_of_lookup? bound]
    rfl

/-- What is made over the broker inside the process is put together from its settings and its
binding. -/
theorem FailsInOrder.eq_of_memory {making : Making σ ρ ι} {obstacle? : Settings.Obstacles}
    {make : Registry → Kind → Setup → String → Except Fault ι}
    (inOrder : making.FailsInOrder obstacle? make)
    {registry : Registry} {kind : Kind} {setup : Setup} {scope : String} {made : ι}
    (memory : Text.fold setup.driver = "memory")
    (succeeds : make registry kind setup scope = .ok made) :
    ∃ settings name, making.settings setup.options = .ok settings ∧
      registry.lookup? kind = some name ∧
        made = making.create ⟨kind, name⟩ (making.ofMemory settings) scope := by
  cases resolved : making.settings setup.options with
  | error cause =>
      rw [inOrder.memory_settings registry kind setup scope cause memory resolved] at succeeds
      cases succeeds
  | ok settings =>
      cases bound : registry.lookup? kind with
      | none =>
          rw [inOrder.memory_unregistered registry kind setup scope settings memory resolved bound]
            at succeeds
          cases succeeds
      | some name =>
          rw [inOrder.memory_made registry kind setup scope settings name memory resolved bound]
            at succeeds
          exact ⟨settings, name, rfl, rfl, (Except.ok.inj succeeds).symm⟩

end Making

/-! ## Publishers and consumers -/

/-- How publishers are made. -/
def Publisher.making : Making Settings.Producer (Sink × Settings.Producer) Publisher where
  role := .producer
  group := "producer"
  settings := Settings.Producer.resolve
  settings_congr := Settings.Producer.resolve_congr
  ofMemory settings := (.memory, settings)
  ofRemote broker := (.remote broker.producer.deliversInTime false, broker.producer)
  create topic parts scope := .create topic parts.1 parts.2 scope

/-- How consumers are made. -/
def Consumer.making : Making Settings.Consumer (Source × Settings.Consumer) Consumer where
  role := .consumer
  group := "consumer"
  settings := Settings.Consumer.resolve
  settings_congr := Settings.Consumer.resolve_congr
  ofMemory settings := (.memory (.ofSettings settings), settings)
  ofRemote broker := (.remote broker.consumer.remoteGroup?, broker.consumer)
  create topic parts scope := .create topic parts.1 parts.2 scope

section

variable {registry : Registry} {kind : Kind} {scope : String}

theorem Publisher.ofOutlet_eq (outlet : Outlet) {parts : Except Fault (Sink × Settings.Producer)}
    (resolved : outlet.resolve = parts) :
    ofOutlet registry kind outlet scope = (do
      let parts ← parts
      let topic ← (registry.topic kind).mapError .registry
      return making.create topic parts scope) := by
  rw [ofOutlet, resolved]
  cases parts with
  | error fault => rfl
  | ok parts => cases registry.topic kind <;> rfl

theorem Consumer.ofInlet_eq (inlet : Inlet) {parts : Except Fault (Source × Settings.Consumer)}
    (resolved : inlet.resolve = parts) :
    ofInlet registry kind inlet scope = (do
      let parts ← parts
      let topic ← (registry.topic kind).mapError .registry
      return making.create topic parts scope) := by
  rw [ofInlet, resolved]
  cases parts with
  | error fault => rfl
  | ok parts => cases registry.topic kind <;> rfl

end

theorem Publisher.ofSetup_eq_make (obstacle? : Settings.Obstacles) :
    Publisher.ofSetup obstacle? = making.make obstacle? := by
  funext registry kind setup scope
  rw [ofSetup, Making.make, Setup.outlet]
  rcases setup.backend with fault | (_ | _)
  · rfl
  · exact ofOutlet_eq (.remote obstacle? setup.options) rfl
  · exact ofOutlet_eq (.memory setup.options) rfl

theorem Consumer.ofSetup_eq_make (obstacle? : Settings.Obstacles) :
    Consumer.ofSetup obstacle? = making.make obstacle? := by
  funext registry kind setup scope
  rw [ofSetup, Making.make, Setup.inlet]
  rcases setup.backend with fault | (_ | _)
  · rfl
  · exact ofInlet_eq (.remote obstacle? setup.options) rfl
  · exact ofInlet_eq (.memory setup.options) rfl

theorem Publisher.failsInOrder (obstacle? : Settings.Obstacles) :
    making.FailsInOrder obstacle? (ofSetup obstacle?) :=
  ofSetup_eq_make obstacle? ▸ making.failsInOrder obstacle?

theorem Consumer.failsInOrder (obstacle? : Settings.Obstacles) :
    making.FailsInOrder obstacle? (ofSetup obstacle?) :=
  ofSetup_eq_make obstacle? ▸ making.failsInOrder obstacle?

end TopicBus
