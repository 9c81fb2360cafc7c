import EdgeCsv.Text.Utf8

/-!
# Rows

One line of an edge dump becomes one row of the CSV. Tabs and spaces separate fields as commas do.
A line that carries the marker `_i` anywhere is *indexed*: its fourth field holds the index that the
marker stands for. Such a line keeps its first two fields and its label, in which each marker is
replaced by an underscore and the index; all else is dropped. Every other line keeps its fields.
-/

namespace EdgeCsv

namespace Row

/-- The byte that separates the fields of a row. -/
def comma : UInt8 := 44

/-- The byte `_`, which begins the marker. -/
def underscore : UInt8 := 95

/-- The byte `i`, which ends the marker. -/
def letterI : UInt8 := 105

/-- Whether a byte stands between two fields of a dump, next to the comma. -/
def isBlank (b : UInt8) : Bool :=
  b = 9 || b = 32

/-- Every tab and every space becomes a comma. -/
def normalize (line : Bytes) : Bytes :=
  line.map fun b => if isBlank b then comma else b

/-- The comma-separated fields of a normalized line; there is always at least one. -/
def fields (line : Bytes) : List Bytes :=
  line.splitOn comma

/-- Whether the marker `_i` occurs. -/
def hasMarker : Bytes → Bool
  | [] => false
  | b :: rest => (b = underscore && rest.head? = some letterI) || hasMarker rest

/-- Replaces each marker, from left to right and without overlap. -/
def replaceMarker (replacement : Bytes) : Bytes → Bytes
  | [] => []
  | [b] => [b]
  | b :: b' :: rest =>
    if b = underscore ∧ b' = letterI then replacement ++ replaceMarker replacement rest
    else b :: replaceMarker replacement (b' :: rest)

/-- What happened to a line. -/
inductive Kind
  /-- Only its blanks were turned into commas. -/
  | plain
  /-- The index was moved into its label. -/
  | indexed
  deriving DecidableEq, Repr

end Row

/-- One row of the CSV, without the line feed that ends it. -/
structure Row where
  /-- How the row came about. -/
  kind : Row.Kind
  /-- The text of the row. -/
  bytes : Bytes
  deriving DecidableEq, Repr

namespace Row

/-- An indexed line without an index: it has `fieldCount` fields, fewer than four. -/
structure MissingIndex where
  /-- The number of fields found. -/
  fieldCount : Nat
  deriving DecidableEq, Repr

/-- The row of an indexed line with the given first four fields. -/
def indexed (source target label index : Bytes) : Row where
  kind := .indexed
  bytes := source ++ comma :: target ++ comma :: replaceMarker (underscore :: index) label

/-- The row of a line. -/
def ofLine (line : Bytes) : Except MissingIndex Row :=
  let line := normalize line
  if hasMarker line then
    match fields line with
    | source :: target :: label :: index :: _ => .ok (indexed source target label index)
    | few => .error ⟨few.length⟩
  else
    .ok ⟨.plain, line⟩

end Row

end EdgeCsv
