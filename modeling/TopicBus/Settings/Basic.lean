import TopicBus.Settings.Options

/-!
# Settings

The typed settings of a broker connection and how they are resolved from options. Everything has
a default but the addresses of the broker. Durations are in milliseconds.
-/

namespace TopicBus

/-- Where a group starts to read when it has no committed offset. -/
inductive StartPolicy
  | earliest
  | latest
  /-- There is no start without a committed offset. -/
  | none
  deriving DecidableEq, Repr

namespace StartPolicy

def word : StartPolicy → String
  | .earliest => "earliest"
  | .latest => "latest"
  | .none => "none"

/-- The policy that a word stands for, whatever its padding and case. -/
def parse (s : String) : Except SettingsFault StartPolicy :=
  let folded := Text.fold s
  if folded = word .earliest then .ok .earliest
  else if folded = word .latest then .ok .latest
  else if folded = word .none then .ok .none
  else .error (.unknownPolicy folded)

end StartPolicy

namespace Settings

/-- How connections are secured. The password is a secret and never shown. -/
structure Security where
  protocol : Option String
  mechanism : Option String
  username : Option String
  password : Option String
  deriving DecidableEq, Repr

structure Producer where
  linger : Nat
  batchSize : Option Nat
  ack : Option String
  retries : Nat
  bufferSize : Nat
  flushTimeout : Nat
  deriving DecidableEq, Repr

structure Consumer where
  group : Option String
  startPolicy : Option StartPolicy
  bufferSize : Nat
  pollTimeout : Nat
  deriving DecidableEq, Repr

/-- The settings of a connection to a broker. -/
structure Broker where
  servers : String
  security : Security
  producer : Producer
  consumer : Consumer
  deriving DecidableEq, Repr

/-- No security at all. -/
def Security.default : Security where
  protocol := none
  mechanism := none
  username := none
  password := none

/-- The defaults of a producer; a flush may take half a minute. -/
def Producer.default : Producer where
  linger := 0
  batchSize := none
  ack := none
  retries := 0
  bufferSize := 0
  flushTimeout := 30000

/-- The defaults of a consumer; a poll takes at most a tenth of a second. -/
def Consumer.default : Consumer where
  group := none
  startPolicy := none
  bufferSize := 0
  pollTimeout := 100

/-- The settings with the given addresses and nothing but defaults. -/
def Broker.ofServers (servers : String) : Broker where
  servers := servers
  security := .default
  producer := .default
  consumer := .default

def Security.resolve (options : Mapping) : Except SettingsFault Security := do
  match ← group? options "security" with
  | none => return .default
  | some entries =>
      let protocol ← text? entries "security" "protocol"
      let mechanism ← text? entries "security" "mechanism"
      let username ← text? entries "security" "username"
      let password ← text? entries "security" "password"
      return ⟨protocol, mechanism, username, password⟩

def Producer.resolve (options : Mapping) : Except SettingsFault Producer := do
  match ← group? options "producer" with
  | none => return .default
  | some entries =>
      let linger ← number? entries "producer" "linger_ms"
      let batchSize ← number? entries "producer" "batch_size"
      let ack ← text? entries "producer" "ack"
      let retries ← number? entries "producer" "retries"
      let bufferSize ← number? entries "producer" "buffer_size"
      let flushTimeout ← number? entries "producer" "flush_timeout_ms"
      return {
        linger := linger.getD Producer.default.linger
        batchSize := batchSize
        ack := ack
        retries := retries.getD Producer.default.retries
        bufferSize := bufferSize.getD Producer.default.bufferSize
        flushTimeout := flushTimeout.getD Producer.default.flushTimeout }

def Consumer.resolve (options : Mapping) : Except SettingsFault Consumer := do
  match ← group? options "consumer" with
  | none => return .default
  | some entries =>
      let group ← text? entries "consumer" "group_id"
      let policyWord ← text? entries "consumer" "auto_offset_reset"
      let startPolicy ← policyWord.mapM StartPolicy.parse
      let bufferSize ← number? entries "consumer" "buffer_size"
      let pollTimeout ← number? entries "consumer" "poll_timeout_ms"
      return {
        group := group
        startPolicy := startPolicy
        bufferSize := bufferSize.getD Consumer.default.bufferSize
        pollTimeout := pollTimeout.getD Consumer.default.pollTimeout }

/-- An address in a list of addresses. -/
def serverEntry : Json → Except SettingsFault String
  | .text s => .ok (Text.trim s)
  | .number n => .ok n.write
  | value => .error (.brokerEntry value.write)

/-- The addresses that a value lists, blank ones included. -/
def serverEntries : Json → Except SettingsFault (List String)
  | .list items => items.mapM serverEntry
  | .text s => .ok ((Text.split ',' s).map Text.trim)
  | value => .error (.brokersShape value.write)

/-- The addresses of the broker with commas between them; blank ones are left out, and one has
to remain. -/
def addresses (options : Mapping) : Except SettingsFault String := do
  match present? options "brokers" with
  | none => .error .brokersUnset
  | some value =>
      let entries ← serverEntries value
      let kept := entries.filter fun entry => !entry.isEmpty
      if kept.isEmpty then .error .brokersEmpty else .ok (Text.join "," kept)

/-- The settings in the options. The addresses are looked at first, then security, producer and
consumer. -/
def Broker.resolve (options : Mapping) : Except SettingsFault Broker := do
  let servers ← addresses options
  let security ← Security.resolve options
  let producer ← Producer.resolve options
  let consumer ← Consumer.resolve options
  return ⟨servers, security, producer, consumer⟩

end Settings

end TopicBus
