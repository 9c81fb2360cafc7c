/-!
# Places in a document
-/

namespace EdgeCsv.Yaml

/-- A place in a document, all three numbers from zero. -/
structure Mark where
  /-- The number of characters before it. -/
  index : Nat := 0
  /-- The number of lines before its line. -/
  line : Nat := 0
  /-- The number of characters before it on its line. -/
  column : Nat := 0
  deriving DecidableEq, Repr

namespace Mark

/-- The place behind a character that does not end a line. -/
def next (m : Mark) : Mark :=
  { m with index := m.index + 1, column := m.column + 1 }

/-- The place behind `n` characters that do not end a line. -/
def advance (m : Mark) (n : Nat) : Mark :=
  { m with index := m.index + n, column := m.column + n }

/-- The start of the next line, behind a line end of `n` characters. -/
def nextLine (m : Mark) (n : Nat) : Mark where
  index := m.index + n
  line := m.line + 1
  column := 0

/-- Whether this is the first place of the document, which messages leave out. -/
def isFirst (m : Mark) : Bool :=
  m.line = 0 && m.column = 0

/-- The place in words, if it is mentioned at all; lines and columns are counted from one. -/
def mention (m : Mark) : String :=
  if m.isFirst then ""
  else " at line " ++ toString (m.line + 1) ++ " column " ++ toString (m.column + 1)

end Mark

end EdgeCsv.Yaml
