import EdgeCsv.Text.Utf8
import EdgeCsv.Yaml.Mark

/-!
# Tokens

The words and signs of a document. Indentation is turned into tokens too: a block collection starts
and ends with a token of its own, although nothing is written there.
-/

namespace EdgeCsv.Yaml

/-- What a token says. -/
inductive Token.Kind
  | streamStart
  | streamEnd
  | versionDirective (major minor : Nat)
  | tagDirective (handle : Bytes) (lead : Bytes)
  | documentStart
  | documentEnd
  | blockSequenceStart
  | blockMappingStart
  | blockEnd
  | flowSequenceStart
  | flowSequenceEnd
  | flowMappingStart
  | flowMappingEnd
  | blockEntry
  | flowEntry
  | key
  | value
  | alias (name : List Char)
  | anchor (name : List Char)
  | tag (handle : Bytes) (suffix : Bytes)
  | scalar (text : List Char) (plain : Bool)
  deriving DecidableEq, Repr

/-- A word or sign of a document. -/
structure Token where
  /-- What it says. -/
  kind : Token.Kind
  /-- Where it starts. -/
  mark : Mark
  deriving DecidableEq, Repr

end EdgeCsv.Yaml
