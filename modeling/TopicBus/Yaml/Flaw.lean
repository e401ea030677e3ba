/-!
# What is wrong with a YAML document
-/

namespace TopicBus.Yaml

/-- Why a document is refused. -/
inductive Flaw
  /-- A character that no document may hold. -/
  | character
  /-- A place where no token can begin or end. -/
  | token
  /-- A quoted scalar or a collection that is not closed. -/
  | unclosed
  /-- A line that is not indented as its place demands. -/
  | indentation
  /-- A key without a colon after it. -/
  | key
  | escape
  | directive
  | tag
  /-- A token that does not fit the structure around it. -/
  | misplaced
  /-- An alias without an anchor before it. -/
  | anchor
  /-- More than one document. -/
  | documents
  /-- Collections nested too deeply. -/
  | depth
  /-- Aliases followed too often. -/
  | repetition
  /-- A value of another shape than is wanted. -/
  | shape
  /-- A number beyond 64 bits. -/
  | number
  /-- A field that stands twice. -/
  | duplicate
  deriving DecidableEq, Repr

def Flaw.message : Flaw → String
  | .character => "control characters are not allowed"
  | .token => "found character that cannot start any token"
  | .unclosed => "found unexpected end of stream"
  | .indentation => "did not find expected indentation"
  | .key => "could not find expected ':'"
  | .escape => "found unknown escape character"
  | .directive => "found unexpected directive"
  | .tag => "did not find expected tag"
  | .misplaced => "did not find expected node content"
  | .anchor => "unknown anchor"
  | .documents => "deserializing from YAML containing more than one document is not supported"
  | .depth => "recursion limit exceeded"
  | .repetition => "repetition limit exceeded"
  | .shape => "invalid type"
  | .number => "invalid number"
  | .duplicate => "duplicate field"

end TopicBus.Yaml
