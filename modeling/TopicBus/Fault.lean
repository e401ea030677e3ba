import TopicBus.Decimal.Natural
import TopicBus.Json.Basic
import TopicBus.Payload.Basic

/-!
# What can go wrong

Every failure is a cause, and its wording is a function of the cause. A payload kind is worded
by a label, which the caller of `message` chooses.
-/

namespace TopicBus

/-- A number of milliseconds in its greatest unit, with the digits after the point that are
needed: `0ns`, `5ms`, `1.5s`. -/
def shownDuration (ms : Nat) : String :=
  if ms = 0 then "0ns"
  else if ms < 1000 then Decimal.natural ms ++ "ms"
  else
    let fraction := ms % 1000
    let places : List Char :=
      [Decimal.digit (fraction / 100), Decimal.digit (fraction / 10 % 10),
        Decimal.digit (fraction % 10)]
    let kept := (places.reverse.dropWhile (· = '0')).reverse
    Decimal.natural (ms / 1000) ++ String.ofList (if kept.isEmpty then [] else '.' :: kept) ++ "s"

/-- What is wrong with the settings. Values are kept as their compact text. -/
inductive SettingsFault
  | brokersUnset
  | brokersEmpty
  | brokerEntry (got : String)
  | brokersShape (got : String)
  | sectionShape (group got : String)
  | textShape (group option got : String)
  | numberShape (group option got : String)
  | unknownPolicy (word : String)
  | messagingUnset
  | driverUnset
  | other (reason : String)
  deriving DecidableEq, Repr

/-- The wording of a fault of the settings. -/
def SettingsFault.message : SettingsFault → String
  | .brokersUnset => "brokers must be set in options"
  | .brokersEmpty => "brokers must not be empty"
  | .brokerEntry got => "brokers: unexpected entry " ++ got
  | .brokersShape got => "brokers must be a list of addresses, got " ++ got
  | .sectionShape group got => group ++ " must be a mapping, got " ++ got
  | .textShape group option got => group ++ "." ++ option ++ " must be a string, got " ++ got
  | .numberShape group option got =>
      group ++ "." ++ option ++ " must be a non-negative number, got " ++ got
  | .unknownPolicy word => "consumer.auto_offset_reset: unknown policy '" ++ word ++ "'"
  | .messagingUnset => "messaging section is required"
  | .driverUnset => "messaging.driver is required"
  | .other reason => reason

/-- Why a binding was refused or not found. -/
inductive RegistryFault (κ : Type := Payload.Kind)
  | nameTaken (name : String) (holder : κ)
  | typeTaken (kind : κ) (name : String)
  | unregistered (kind : κ)
  deriving DecidableEq, Repr

/-- The wording of a fault of the registry. -/
def RegistryFault.message {κ : Type} (label : κ → String) : RegistryFault κ → String
  | .nameTaken name holder => "topic '" ++ name ++ "' is already bound to " ++ label holder
  | .typeTaken kind name => "type " ++ label kind ++ " is already bound to topic '" ++ name ++ "'"
  | .unregistered kind => "type " ++ label kind ++ " has no registered topic"

/-- Why a client could not be created or could not subscribe. -/
inductive ConnectionFault
  | refusedProperty
  /-- A property holds a zero octet. -/
  | zeroOctet
  | lingerTooLong
  | credentialsUnset
  | mechanismUnavailable (mechanism : String)
  | mechanismUnknown (mechanism : String)
  | unknownGroup
  /-- The topic subscribed to has no name. -/
  | namelessTopic
  | other (reason : String)
  deriving DecidableEq, Repr

/-- The wording of a fault of the connection. -/
def ConnectionFault.message : ConnectionFault → String
  | .refusedProperty => "Client config error"
  | .zeroOctet => "FFI nul error"
  | .lingerTooLong =>
      "Client creation error: `message.timeout.ms` must be greater than `linger.ms`"
  | .credentialsUnset => "Client creation error: sasl.username and sasl.password must be set"
  | .mechanismUnavailable mechanism =>
      "Client creation error: No provider for SASL mechanism " ++ mechanism ++
        ": recompile librdkafka with libsasl2 or openssl support. Current build options: PLAIN"
  | .mechanismUnknown mechanism =>
      "Client creation error: Unsupported SASL mechanism: " ++ mechanism
  | .unknownGroup => "failed to subscribe: Subscription error: Local: Unknown group"
  | .namelessTopic =>
      "failed to subscribe: Subscription error: Local: Invalid argument or configuration"
  | .other reason => reason

/-- Why records could not be moved. Durations are in milliseconds. -/
inductive TransportFault
  | notSubscribed
  | noCommittedOffset (topic : String)
  | publisherOverdue (limit : Nat)
  | flushOverdue (limit : Nat)
  | recordTooLarge
  /-- A topic whose name holds a zero octet. -/
  | zeroOctet
  /-- A topic that the broker's client does not take. -/
  | refusedTopic
  | other (reason : String)
  deriving DecidableEq, Repr

/-- The wording of a fault of the transport. -/
def TransportFault.message : TransportFault → String
  | .notSubscribed => "consumer is not subscribed"
  | .noCommittedOffset topic => "no committed offset for topic '" ++ topic ++ "'"
  | .publisherOverdue limit => "publisher did not flush within " ++ shownDuration limit
  | .flushOverdue limit => "flush did not finish within " ++ shownDuration limit
  | .recordTooLarge =>
      "Message production error: MessageSizeTooLarge (Broker: Message size too large)"
  | .zeroOctet => "FFI nul error"
  | .refusedTopic =>
      "Message production error: InvalidArgument (Local: Invalid argument or configuration)"
  | .other reason => reason

/-- Why progress could not be committed. -/
inductive CommitFault
  | noGroup
  | unknownGroup
  | invalidOffset
  | other (reason : String)
  deriving DecidableEq, Repr

/-- The wording of a fault of a commit. -/
def CommitFault.message : CommitFault → String
  | .noGroup => "no consumer group configured"
  | .unknownGroup => "Consumer commit error: UnknownGroup (Local: Unknown group)"
  | .invalidOffset =>
      "Set partition offset error: InvalidArgument (Local: Invalid argument or configuration)"
  | .other reason => reason

/-- Why a document could not be read. -/
inductive FileFault
  | missing
  | directory
  | notDirectory
  | notText
  | other (reason : String)
  deriving DecidableEq, Repr

/-- The wording of a fault of a file. -/
def FileFault.message : FileFault → String
  | .missing => "No such file or directory (os error 2)"
  | .directory => "Is a directory (os error 21)"
  | .notDirectory => "Not a directory (os error 20)"
  | .notText => "stream did not contain valid UTF-8"
  | .other reason => reason

/-- The background work that crashed. -/
inductive ShutdownFault
  | pump
  | pollLoop
  | reports
  | flush
  | other (reason : String)
  deriving DecidableEq, Repr

def ShutdownFault.message : ShutdownFault → String
  | .pump => "publisher pump"
  | .pollLoop => "consumer poll loop"
  | .reports => "delivery reports"
  | .flush => "flush task"
  | .other reason => reason

/-- What a remote broker's client reports. -/
inductive RemoteFault
  | flushTimedOut
  deriving DecidableEq, Repr

def RemoteFault.message : RemoteFault → String
  | .flushTimedOut => "Flush error: OperationTimedOut (Local: Timed out)"

/-- A failure of any operation. -/
inductive Fault
  | settings (cause : SettingsFault)
  | connection (cause : ConnectionFault)
  | registry (cause : RegistryFault)
  | serialization (reason : String)
  | deserialization (reason : String)
  | transport (cause : TransportFault)
  | commit (cause : CommitFault)
  | alreadyOpen
  | notAckable
  | unsupportedDriver (word : String)
  | file (cause : FileFault)
  | document (reason : String)
  | shutdown (cause : ShutdownFault)
  | remote (cause : RemoteFault)
  deriving DecidableEq, Repr

def Fault.message (label : Payload.Kind → String) : Fault → String
  | .settings cause => "configuration error: " ++ cause.message
  | .connection cause => "connection error: " ++ cause.message
  | .registry cause => cause.message label
  | .serialization reason => "serialization error: " ++ reason
  | .deserialization reason => "deserialization error: " ++ reason
  | .transport cause => "transport error: " ++ cause.message
  | .commit cause => "commit error: " ++ cause.message
  | .alreadyOpen => "already open"
  | .notAckable => "message cannot be acknowledged"
  | .unsupportedDriver word => "unsupported driver: " ++ word
  | .file cause => "io error: " ++ cause.message
  | .document reason => "yaml error: " ++ reason
  | .shutdown cause => "shutdown error: " ++ cause.message
  | .remote cause => "kafka error: " ++ cause.message

end TopicBus
