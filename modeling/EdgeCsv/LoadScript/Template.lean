import EdgeCsv.LoadScript.Cypher

/-!
# Templates

A template is a list of pieces: text that stands as it is, and places where a named value goes in
through a named helper. Rendering looks up helpers and values by name and fails if one is missing or
a value is no text. `source` writes the template down, a place as the helper and the value between
braces: three if what the helper returns is taken as it is, two if it is escaped for markup.
-/

namespace EdgeCsv

/-- A place in a template where a value goes in. -/
structure Template.Place where
  /-- The helper that the value goes through. -/
  helper : String
  /-- The name of the value. -/
  value : String
  /-- Whether what the helper returns is escaped for markup. -/
  escaped : Bool
  deriving DecidableEq, Repr

/-- A piece of a template. -/
inductive Template.Piece
  | text (s : String)
  | place (p : Template.Place)
  deriving DecidableEq, Repr

/-- A text with places for values. -/
structure Template where
  /-- The pieces in order. -/
  pieces : List Template.Piece
  deriving DecidableEq, Repr

namespace Template

/-- A value that a template is rendered with. -/
inductive Value
  | text (s : String)
  /-- A number, a list or anything else that is no text. -/
  | other
  deriving DecidableEq, Repr

/-- Why a template cannot be rendered. -/
inductive RenderError
  | unknownHelper (name : String)
  | missingValue (name : String)
  | notText (helper : String)
  /-- A reason in words. -/
  | other (description : String)
  deriving DecidableEq, Repr

/-- The reason in words. -/
def RenderError.message : RenderError → String
  | .unknownHelper name => "Helper not defined: \"" ++ name ++ "\""
  | .missingValue name => "Variable \"" ++ name ++ "\" not found in strict mode."
  | .notText helper => "The argument of helper \"" ++ helper ++ "\" is not a text"
  | .other description => description

/-- The helpers by name. -/
def helper? : String → Option (String → String)
  | "cypher_string" => some Cypher.quote
  | "cypher_comment" => some Cypher.comment
  | _ => none

/-- One character escaped for markup. -/
def escapeChar (c : Char) : List Char :=
  if c = '<' then "&lt;".toList
  else if c = '>' then "&gt;".toList
  else if c = '"' then "&quot;".toList
  else if c = '&' then "&amp;".toList
  else if c = '\'' then "&#x27;".toList
  else if c = '\x60' then "&#x60;".toList
  else if c = '=' then "&#x3D;".toList
  else [c]

/-- A text escaped for markup. -/
def escape (s : String) : String :=
  String.ofList (s.toList.flatMap escapeChar)

/-- What goes into a place. -/
def Place.fill (p : Place) (values : String → Option Value) : Except RenderError String := do
  let some f := helper? p.helper | .error (.unknownHelper p.helper)
  match values p.value with
  | none => .error (.missingValue p.value)
  | some .other => .error (.notText p.helper)
  | some (.text s) => .ok (if p.escaped then escape (f s) else f s)

/-- A piece with its value filled in. -/
def Piece.fill (values : String → Option Value) : Piece → Except RenderError String
  | .text s => .ok s
  | .place p => p.fill values

/-- The template with all values filled in. -/
def render (t : Template) (values : String → Option Value) : Except RenderError String := do
  let filled ← t.pieces.mapM (Piece.fill values)
  .ok (String.join filled)

/-- How a piece is written down. -/
def Piece.source : Piece → String
  | .text s => s
  | .place p =>
    let inner := p.helper ++ " " ++ p.value
    if p.escaped then "\x7b\x7b" ++ inner ++ "\x7d\x7d"
    else "\x7b\x7b\x7b" ++ inner ++ "\x7d\x7d\x7d"

/-- How a template is written down. -/
def source (t : Template) : String :=
  String.join (t.pieces.map Piece.source)

end Template

end EdgeCsv
