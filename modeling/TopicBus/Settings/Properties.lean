import TopicBus.Settings.Basic

/-!
# Properties of a remote client

The settings as the string properties that the client of a remote broker takes. Tuning is passed
on only where it is set; consumers never commit on their own.
-/

namespace TopicBus.Settings

/-- What a client is for. -/
inductive Role
  | producer
  | consumer
  deriving DecidableEq, Repr

/-- Properties by name. -/
abbrev Properties := List (String × String)

/-- The property of a setting that may be unset. -/
def optionalProperty (name : String) (value : Option String) : Properties :=
  match value with
  | none => []
  | some value => [(name, value)]

/-- The property of a number that zero leaves unset. -/
def positiveProperty (name : String) (value : Nat) : Properties :=
  if value = 0 then [] else [(name, Decimal.natural value)]

/-- Security properties. Credentials go with a mechanism only. -/
def Security.properties (security : Security) : Properties :=
  optionalProperty "security.protocol" security.protocol ++
    match security.mechanism with
    | none => []
    | some mechanism =>
        ("sasl.mechanism", mechanism) :: optionalProperty "sasl.username" security.username ++
          optionalProperty "sasl.password" security.password

def Producer.properties (producer : Producer) : Properties :=
  optionalProperty "acks" producer.ack ++ positiveProperty "retries" producer.retries ++
    positiveProperty "linger.ms" producer.linger ++
    positiveProperty "batch.num.messages" (producer.batchSize.getD 0)

def Consumer.properties (consumer : Consumer) : Properties :=
  optionalProperty "group.id" consumer.group ++
    optionalProperty "auto.offset.reset" (consumer.startPolicy.map StartPolicy.word) ++
    [("enable.auto.commit", "false"), ("enable.partition.eof", "false")]

def Broker.properties (broker : Broker) (role : Role) : Properties :=
  ("bootstrap.servers", broker.servers) :: broker.security.properties ++
    match role with
    | .producer => broker.producer.properties
    | .consumer => broker.consumer.properties

/-- The properties as they may be shown: the value of a password is not. -/
def Properties.sanitized (properties : Properties) : Properties :=
  properties.map fun (name, value) =>
    (name, if name = "sasl.password" then "[sanitized for safety]" else value)

end TopicBus.Settings
