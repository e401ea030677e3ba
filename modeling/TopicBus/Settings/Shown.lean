import TopicBus.Settings.Basic
import TopicBus.Text.Quoted

/-!
# Settings as shown to a reader

All settings are shown but the password, of which only its presence is.
-/

namespace TopicBus

open Text (quoted)
open Text.Shown (record optional)

def StartPolicy.shown : StartPolicy → String
  | .earliest => "Earliest"
  | .latest => "Latest"
  | .none => "None"

namespace Settings

/-- What is shown in the place of a secret. -/
def redacted : String := "Secret([REDACTED alloc::string::String])"

/-- Security settings without the password. -/
def Security.shown (security : Security) : String :=
  record "SecurityConfig"
    [("protocol", optional quoted security.protocol),
      ("mechanism", optional quoted security.mechanism),
      ("username", optional quoted security.username),
      ("password", optional (fun _ => redacted) security.password)]

def Producer.shown (producer : Producer) : String :=
  record "ProducerSettings"
    [("linger_ms", Decimal.natural producer.linger),
      ("batch_size", optional Decimal.natural producer.batchSize),
      ("ack", optional quoted producer.ack),
      ("retries", Decimal.natural producer.retries),
      ("buffer_size", Decimal.natural producer.bufferSize),
      ("flush_timeout", shownDuration producer.flushTimeout)]

def Consumer.shown (consumer : Consumer) : String :=
  record "ConsumerSettings"
    [("group_id", optional quoted consumer.group),
      ("auto_offset_reset", optional StartPolicy.shown consumer.startPolicy),
      ("buffer_size", Decimal.natural consumer.bufferSize),
      ("poll_timeout", shownDuration consumer.pollTimeout)]

def Broker.shown (broker : Broker) : String :=
  record "BrokerConfig"
    [("bootstrap_servers", quoted broker.servers), ("security", broker.security.shown),
      ("producer", broker.producer.shown), ("consumer", broker.consumer.shown)]

end Settings

end TopicBus
