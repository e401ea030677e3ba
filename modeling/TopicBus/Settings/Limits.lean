import TopicBus.Settings.Numeral
import TopicBus.Settings.Properties

/-!
# What the client of a remote broker accepts

The client of a remote broker refuses properties outside its own limits. It is given only the
properties of the role that it is made for. A property without text counts as unset, which only some
of them may be.

The limits are those of one build of the library, which can neither encrypt nor use a mechanism that
needs ciphers. A program hands them over, as its obstacles, where clients are made.
-/

namespace TopicBus.Settings

/-- A word with its ASCII letters in lower case. -/
def lowered (word : String) : String :=
  String.ofList (word.toList.map Text.lowerAscii)

/-- The protocols of a client that cannot encrypt. Blanks alone name none, and the connection is
plain. -/
def usableProtocols : List String :=
  ["", "plaintext", "sasl_plaintext"]

/-- Whether a whole number at the start of a value lies between two bounds. -/
def isWithin (least greatest : Int) (value : String) : Bool :=
  (leadingNumber? value).any fun n => least ≤ n && n ≤ greatest

/-- The longest linger, in milliseconds. -/
def greatestLinger : Nat := 900000

/-- Whether the client accepts a property. Acknowledgements are a number up to a thousand or
all, where minus one stands for all too; a mechanism is a single word. -/
def isAccepted (name value : String) : Bool :=
  match name with
  | "security.protocol" => !value.isEmpty && lowered (leftTrimmed value) ∈ usableProtocols
  | "sasl.mechanism" =>
      !value.isEmpty && (leftTrimmed value).toList.all fun c => c != ',' && c != ' '
  | "acks" => lowered value = "all" || isWithin (-1) 1000 value
  | "retries" => isWithin 0 2147483647 value
  | "linger.ms" => (Decimal.value? value.toList).any (· ≤ greatestLinger)
  | "batch.num.messages" => isWithin 1 1000000 value
  | "auto.offset.reset" => ["earliest", "latest"].contains value
  | _ => true

/-- Whether connections are made with a mechanism. -/
def Security.usesMechanism (security : Security) : Bool :=
  security.protocol.any fun protocol => lowered (leftTrimmed protocol) = "sasl_plaintext"

def isGiven (credential : Option String) : Bool :=
  credential.any fun text => !text.isEmpty

/-- The mechanisms that a client knows of but that need a library for ciphers. -/
def isCiphered (mechanism : String) : Bool :=
  mechanism = "GSSAPI" || mechanism = "OAUTHBEARER" || mechanism.startsWith "SCRAM-SHA-"

/-- Why connections cannot be secured as is wanted. Plain credentials are all that can be used. -/
def Security.obstacle? (security : Security) : Option ConnectionFault :=
  if !security.usesMechanism then none
  else
    let mechanism := (security.mechanism.map leftTrimmed).getD "GSSAPI"
    if mechanism = "PLAIN" then
      if isGiven security.username && isGiven security.password then none
      else some .credentialsUnset
    else if isCiphered mechanism then some (.mechanismUnavailable mechanism)
    else some (.mechanismUnknown mechanism)

/-- How long a record may wait to be delivered, in milliseconds. A longer linger leaves no time
for any record. -/
def deliveryLimit : Nat := 300000

/-- Whether a producer can deliver records at all. -/
def Producer.deliversInTime (producer : Producer) : Bool :=
  producer.linger < deliveryLimit

/-- Why a client of the given role cannot be created with the settings. That no record could be
delivered is noticed where acknowledgements are set. -/
def Broker.obstacle? (broker : Broker) (role : Role) : Option ConnectionFault :=
  let properties := broker.properties role
  if properties.any fun property => Text.holdsZero property.2 then some .zeroOctet
  else if properties.any fun property => !isAccepted property.1 property.2 then
    some .refusedProperty
  else if role = .producer && broker.producer.ack.isSome && !broker.producer.deliversInTime then
    some .lingerTooLong
  else broker.security.obstacle?

/-- The group of a consumer, as a remote broker knows it: white space in front is dropped, and a
group without a name is none. -/
def Consumer.remoteGroup? (consumer : Consumer) : Option String :=
  (consumer.group.map leftTrimmed).filter fun group => !group.isEmpty

end TopicBus.Settings
