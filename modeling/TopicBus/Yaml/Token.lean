import TopicBus.Text.Utf8

/-!
# Tokens of a YAML text
-/

namespace TopicBus.Yaml

/-- The pieces that a YAML text is made of. -/
inductive Token
  | version (major minor : Nat)
  | tagHandle (handle : String) (stem : Text.Bytes)
  | documentStart
  | documentEnd
  | blockSequence
  | blockMapping
  | blockEnd
  | flowSequence
  | flowSequenceEnd
  | flowMapping
  | flowMappingEnd
  | blockEntry
  | flowEntry
  | key
  | value
  | alias (name : String)
  | anchor (name : String)
  | tag (handle : String) (suffix : Text.Bytes)
  /-- A scalar; a plain one stands without quotes or block indicators. -/
  | scalar (text : String) (plain : Bool)
  | streamEnd
  deriving DecidableEq, Repr

end TopicBus.Yaml
