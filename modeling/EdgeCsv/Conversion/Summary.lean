import EdgeCsv.Row

/-!
# Conversion counts

What is reported after a conversion: how many lines were read and how many of them were indexed. The
number of lines written is one more than the number read, in 64-bit arithmetic.
-/

namespace EdgeCsv.Conversion

/-- The counts of a conversion. -/
structure Summary where
  /-- The number of lines read. -/
  inputLines : Nat
  /-- The number of rows into whose label an index was moved. -/
  indexedRows : Nat
  deriving DecidableEq, Repr

namespace Summary

/-- Nothing read yet. -/
def zero : Summary := ⟨0, 0⟩

/-- The counts with one more row. -/
def count (s : Summary) (row : Row) : Summary where
  inputLines := s.inputLines + 1
  indexedRows := s.indexedRows + if row.kind = .indexed then 1 else 0

/-- The number of lines written: a row for each line read, and the header. -/
def outputLines (s : Summary) : Nat :=
  (s.inputLines + 1) % UInt64.size

/-- The counts in words. -/
def message (s : Summary) : String :=
  toString s.inputLines ++ " input lines, " ++ toString s.indexedRows ++
    " indexed labels rewritten, " ++ toString s.outputLines ++ " output lines"

end Summary

end EdgeCsv.Conversion
