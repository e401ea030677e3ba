import TopicBus.Broker.Basic
import TopicBus.Broker.Client
import TopicBus.Bus.Channel
import TopicBus.Bus.Consumer
import TopicBus.Bus.Event
import TopicBus.Bus.Factory
import TopicBus.Bus.Publisher
import TopicBus.Bus.Run
import TopicBus.Bus.Schedule
import TopicBus.Bus.Sink
import TopicBus.Bus.Source
import TopicBus.Bus.System
import TopicBus.Decimal.Binary64
import TopicBus.Decimal.Layout
import TopicBus.Decimal.Natural
import TopicBus.Decimal.Scaled
import TopicBus.Decimal.Shortest
import TopicBus.Fault
import TopicBus.Files
import TopicBus.Json.Basic
import TopicBus.Json.Read
import TopicBus.Json.Scan
import TopicBus.Message
import TopicBus.Payload.Basic
import TopicBus.Payload.Shown
import TopicBus.Payload.Wire
import TopicBus.Proofs.Broker.Appends
import TopicBus.Proofs.Broker.Cursors
import TopicBus.Proofs.Broker.Looks
import TopicBus.Proofs.Bus.Acknowledgement
import TopicBus.Proofs.Bus.Effects
import TopicBus.Proofs.Bus.Frames
import TopicBus.Proofs.Bus.Identity
import TopicBus.Proofs.Bus.Loop
import TopicBus.Proofs.Bus.Making
import TopicBus.Proofs.Bus.Opening
import TopicBus.Proofs.Bus.Origins
import TopicBus.Proofs.Bus.Pump
import TopicBus.Proofs.Bus.Records
import TopicBus.Proofs.Bus.Starting
import TopicBus.Proofs.Bus.Tasks
import TopicBus.Proofs.Bus.Topics
import TopicBus.Proofs.Closing
import TopicBus.Proofs.Decimal.Numerals
import TopicBus.Proofs.Decimal.Rounding
import TopicBus.Proofs.Decimal.Scaling
import TopicBus.Proofs.Decimal.Shortest
import TopicBus.Proofs.Delivery.Accounting
import TopicBus.Proofs.Delivery.Acknowledging
import TopicBus.Proofs.Delivery.Beginning
import TopicBus.Proofs.Delivery.Commits
import TopicBus.Proofs.Delivery.Draining
import TopicBus.Proofs.Delivery.Fetching
import TopicBus.Proofs.Delivery.Following
import TopicBus.Proofs.Delivery.InOrder
import TopicBus.Proofs.Delivery.Messages
import TopicBus.Proofs.Delivery.Orders
import TopicBus.Proofs.Delivery.Reading
import TopicBus.Proofs.Delivery.Receipts
import TopicBus.Proofs.Delivery.Redelivery
import TopicBus.Proofs.Delivery.Resuming
import TopicBus.Proofs.Delivery.Stopping
import TopicBus.Proofs.Delivery.Typed
import TopicBus.Proofs.Delivery.Waking
import TopicBus.Proofs.Delivery.Winding
import TopicBus.Proofs.Groups.Answers
import TopicBus.Proofs.Groups.Independence
import TopicBus.Proofs.Groups.Membership
import TopicBus.Proofs.Groups.Sight
import TopicBus.Proofs.Handover
import TopicBus.Proofs.Lifecycle
import TopicBus.Proofs.Publishing
import TopicBus.Proofs.Registry.Bindings
import TopicBus.Proofs.Registry.Lists
import TopicBus.Proofs.Registry.Refusals
import TopicBus.Proofs.Reports.Accounts
import TopicBus.Proofs.Reports.Fates
import TopicBus.Proofs.Reports.Polls
import TopicBus.Proofs.Settings.Addresses
import TopicBus.Proofs.Settings.Differences
import TopicBus.Proofs.Settings.Faults
import TopicBus.Proofs.Settings.Numbers
import TopicBus.Proofs.Settings.Properties
import TopicBus.Proofs.Settings.Readings
import TopicBus.Proofs.Settings.Relevance
import TopicBus.Proofs.Settings.Resolution
import TopicBus.Proofs.Settings.Secrecy
import TopicBus.Proofs.Settings.Words
import TopicBus.Proofs.Text.Pieces
import TopicBus.Proofs.Text.Spelling
import TopicBus.Proofs.Text.Utf8
import TopicBus.Proofs.Wire.Codec
import TopicBus.Proofs.Wire.Compact
import TopicBus.Proofs.Wire.Cuts
import TopicBus.Proofs.Wire.Doubles
import TopicBus.Proofs.Wire.Messages
import TopicBus.Proofs.Wire.Numbers
import TopicBus.Proofs.Wire.Numerals
import TopicBus.Proofs.Wire.Orders
import TopicBus.Proofs.Wire.Records
import TopicBus.Proofs.Wire.Strings
import TopicBus.Proofs.Wire.Torn
import TopicBus.Proofs.Wire.Values
import TopicBus.Registry
import TopicBus.Session.Basic
import TopicBus.Session.Step
import TopicBus.Settings.Basic
import TopicBus.Settings.Limits
import TopicBus.Settings.Numeral
import TopicBus.Settings.Options
import TopicBus.Settings.Properties
import TopicBus.Settings.Shown
import TopicBus.Setup
import TopicBus.Text.Blank
import TopicBus.Text.Quoted
import TopicBus.Text.Utf8
import TopicBus.Text.Visible
import TopicBus.Wire.Leaf
import TopicBus.Wire.Row
import TopicBus.Yaml.Cursor
import TopicBus.Yaml.Event
import TopicBus.Yaml.Flaw
import TopicBus.Yaml.Node
import TopicBus.Yaml.Scalar
import TopicBus.Yaml.Scanner
import TopicBus.Yaml.Schema
import TopicBus.Yaml.Tag
import TopicBus.Yaml.Token
import TopicBus.Yaml.Value
