import EdgeCsv.Yaml.Token
import EdgeCsv.Yaml.Token.Tag

/-!
# Directives

A line that starts with a percent sign: the version of the language, or a short handle for the
beginning of tags.
-/

namespace EdgeCsv.Yaml.Directive

/-- Reads the name of a directive. -/
def scanName (start : Mark) (cur : Cursor) : Except Fault (List Char × Cursor) :=
  let (name, rest) := cur.span isWord
  if name = [] then .error (.within .directive start .noDirectiveName rest.mark)
  else if !endsWord rest.peek? then .error (.within .directive start .badDirectiveName rest.mark)
  else .ok (name, rest)

/-- The most digits of a version number. -/
def maxDigits : Nat := 9

/-- Reads one of the two numbers of a version. -/
def scanNumber (start : Mark) (cur : Cursor) : Except Fault (Nat × Cursor) :=
  let (digits, rest) := cur.span Char.isDigit
  if digits = [] then .error (.within .versionDirective start .noVersionNumber cur.mark)
  else if maxDigits < digits.length then
    .error (.within .versionDirective start .longVersionNumber (cur.skip maxDigits).mark)
  else .ok (digits.foldl (fun n c => n * 10 + (c.toNat - '0'.toNat)) 0, rest)

/-- Reads a version: two numbers with a point between them. -/
def scanVersion (start : Mark) (cur : Cursor) : Except Fault (Token.Kind × Cursor) := do
  let (major, rest) ← scanNumber start (cur.skipWhile isBlank)
  if rest.peek? ≠ some '.' then
    .error (.within .versionDirective start .noVersionPoint rest.mark)
  else
    let (minor, rest) ← scanNumber start (rest.skip 1)
    .ok (.versionDirective major minor, rest)

/-- Reads a handle and what it stands for. -/
def scanTagDirective (start : Mark) (cur : Cursor) : Except Fault (Token.Kind × Cursor) := do
  let (handle, rest) ← Tag.scanHandle .directive start (cur.skipWhile isBlank)
  if !rest.peek?.any isBlank then .error (.within .tagDirective start .noWhitespace rest.mark)
  else
    let (lead, rest) ← Tag.scanUri .directive true [] start (rest.skipWhile isBlank)
    if endsWord rest.peek? then .ok (.tagDirective (Utf8.encode handle) lead, rest)
    else .error (.within .tagDirective start .noWhitespaceOrBreak rest.mark)

/-- Reads a directive, from the percent sign to the start of the next line. -/
def scan (cur : Cursor) : Except Fault (Token.Kind × Cursor) := do
  let start := cur.mark
  let (name, rest) ← scanName start (cur.skip 1)
  let (kind, rest) ←
    if name = "YAML".toList then scanVersion start rest
    else if name = "TAG".toList then scanTagDirective start rest
    else .error (.within .directive start .unknownDirective rest.mark)
  let rest := rest.skipComment
  if endsLine rest.peek? then .ok (kind, rest.skipBreak)
  else .error (.within .directive start .noDirectiveEnd rest.mark)

end EdgeCsv.Yaml.Directive
