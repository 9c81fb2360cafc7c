import EdgeCsv.Conversion.Error
import EdgeCsv.Conversion.Summary
import EdgeCsv.Log

/-!
# The rows of a dump

A dump is split at its line feeds. Its conversion is a list of steps: bytes to write and things to
say, in order. First comes the header, then a row for each line; the first malformed line ends the
list. `Rows.ofDump` computes the steps and what they end in, without writing anything.
-/

namespace EdgeCsv.Conversion

/-- One step of a conversion. -/
inductive Step
  /-- Hand these bytes to the writer. -/
  | write (bytes : Bytes)
  /-- Say this. -/
  | say (event : Log.Event)
  deriving DecidableEq, Repr

/-- The bytes that a step writes. -/
def Step.written : Step → Bytes
  | .write bytes => bytes
  | .say _ => []

/-- The byte that ends a line. -/
def lineFeed : UInt8 := 10

/-- The names of the columns, written before any row. -/
def header : Bytes :=
  Bytes.ofString "n1,n2,label"

/-- The lines of a dump; there is always at least one, and a trailing line feed leaves an empty
line after it. -/
def lines (dump : Bytes) : List Bytes :=
  dump.splitOn lineFeed

/-- Said when an index was moved into a label. -/
def indexMoved (lineNumber : Nat) (row : Row) : Log.Event where
  level := .debug
  origin := .conversion
  message := "Line " ++ toString lineNumber ++ ": indexed label rewritten to '" ++
    Utf8.lossy row.bytes ++ "'"

/-- Said when a line is malformed. -/
def stoppedAt (m : Malformed) : Log.Event where
  level := .error
  origin := .conversion
  message := m.message

/-- The steps of a conversion and what they end in. -/
structure Rows where
  /-- What is written and said, in order. -/
  steps : List Step
  /-- The counts, or the first malformed line. -/
  result : Except Malformed Summary

namespace Rows

/-- The steps of one row. -/
def rowSteps (lineNumber : Nat) (row : Row) : List Step :=
  match row.kind with
  | .plain => [.write row.bytes, .write [lineFeed]]
  | .indexed => [.say (indexMoved lineNumber row), .write row.bytes, .write [lineFeed]]

/-- The steps of some lines, the first of which has the given number. -/
def ofLines : Nat → List Bytes → Rows
  | _, [] => ⟨[], .ok .zero⟩
  | n, line :: rest =>
    match Row.ofLine line with
    | .error missing =>
      let m : Malformed := ⟨n, missing.fieldCount, Utf8.lossy line⟩
      ⟨[.say (stoppedAt m)], .error m⟩
    | .ok row =>
      let below := ofLines (n + 1) rest
      ⟨rowSteps n row ++ below.steps, below.result.map (·.count row)⟩

/-- The conversion of a dump. -/
def ofDump (dump : Bytes) : Rows :=
  let rows := ofLines 1 (lines dump)
  ⟨.write header :: .write [lineFeed] :: rows.steps, rows.result⟩

/-- Everything that is written when nothing stands in the way. -/
def written (rows : Rows) : Bytes :=
  rows.steps.flatMap Step.written

end Rows

end EdgeCsv.Conversion
