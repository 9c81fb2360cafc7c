import EdgeCsv.Text.Utf8
import EdgeCsv.Yaml.Mark

/-!
# Events

The structure of a document, told in order: collections start and end, and in between come scalars,
aliases and further collections. A mapping lists keys and values in turn.
-/

namespace EdgeCsv.Yaml

/-- What a node has in front of its content. -/
structure Properties where
  /-- The name under which the node can be referred to. -/
  anchor : Option (List Char) := none
  /-- What kind of value the node is said to be. -/
  tag : Option Bytes := none
  deriving DecidableEq, Repr

/-- One thing told. -/
inductive Event.Kind
  | streamStart
  | streamEnd
  | documentStart
  | documentEnd
  | alias (name : List Char)
  | scalar (properties : Properties) (text : List Char) (plain : Bool)
  | sequenceStart (properties : Properties)
  | sequenceEnd
  | mappingStart (properties : Properties)
  | mappingEnd
  deriving DecidableEq, Repr

/-- One thing told, and where it starts. -/
structure Event where
  /-- What is told. -/
  kind : Event.Kind
  /-- Where it starts. -/
  mark : Mark
  deriving DecidableEq, Repr

end EdgeCsv.Yaml
