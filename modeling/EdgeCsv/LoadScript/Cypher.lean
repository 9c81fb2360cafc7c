/-!
# Text inside a Cypher script

A text can stand in a script in two places. Inside a string literal in single quotes, `quote` puts a
backslash before each backslash and each quote, so that the literal ends where it should. Behind
`//`, `comment` puts a space for each line break, so that the text stays on its line.
-/

namespace EdgeCsv.Cypher

/-- One character inside a literal in single quotes. -/
def quoteChar (c : Char) : List Char :=
  if c = '\\' then ['\\', '\\']
  else if c = '\'' then ['\\', '\'']
  else [c]

/-- A text inside a literal in single quotes. -/
def quote (s : String) : String :=
  String.ofList (s.toList.flatMap quoteChar)

/-- One character inside a comment. -/
def commentChar (c : Char) : Char :=
  if c = '\r' ∨ c = '\n' then ' ' else c

/-- A text inside a comment. -/
def comment (s : String) : String :=
  String.ofList (s.toList.map commentChar)

end EdgeCsv.Cypher
