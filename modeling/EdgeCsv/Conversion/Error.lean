import EdgeCsv.IoError
import EdgeCsv.Path

/-!
# Why a conversion fails

Either a line of the dump is malformed, or the dump cannot be read, or the CSV cannot be created or
written. All but the first are failures of the system and keep its reason.
-/

namespace EdgeCsv.Conversion

/-- An indexed line that has no index. -/
structure Malformed where
  /-- The number of the line, from 1. -/
  lineNumber : Nat
  /-- The number of its fields. -/
  fieldCount : Nat
  /-- The line, shown as text. -/
  line : String
  deriving DecidableEq, Repr

/-- The malformed line in words. -/
def Malformed.message (m : Malformed) : String :=
  "Malformed record on line " ++ toString m.lineNumber ++
    ": indexed label needs at least 4 fields, found " ++ toString m.fieldCount ++
    " in '" ++ m.line ++ "'"

/-- The reason why a conversion failed. -/
inductive Error
  | readInput (path : Path) (reason : IoError)
  | createOutput (path : Path) (reason : IoError)
  | writeOutput (path : Path) (reason : IoError)
  | malformedRecord (record : Malformed)
  deriving DecidableEq, Repr

namespace Error

/-- The failure in words. -/
def message : Error → String
  | .readInput p e => "Failed to read input '" ++ p.display ++ "': " ++ e.message
  | .createOutput p e => "Failed to create output '" ++ p.display ++ "': " ++ e.message
  | .writeOutput p e => "Failed to write output '" ++ p.display ++ "': " ++ e.message
  | .malformedRecord m => m.message

/-- A short name for each kind of failure. -/
def code : Error → String
  | .readInput .. => "READ_INPUT_FAILED"
  | .createOutput .. => "CREATE_OUTPUT_FAILED"
  | .writeOutput .. => "WRITE_OUTPUT_FAILED"
  | .malformedRecord _ => "MALFORMED_RECORD"

/-- The system's reason, if it was the system that failed. -/
def reason? : Error → Option IoError
  | .readInput _ e | .createOutput _ e | .writeOutput _ e => some e
  | .malformedRecord _ => none

/-- The malformed line, if it was the dump that was wrong. -/
def malformed? : Error → Option Malformed
  | .malformedRecord m => some m
  | _ => none

/-- Whether the system failed. -/
def isSystemFailure (e : Error) : Bool :=
  e.reason?.isSome

/-- Whether the dump was wrong. -/
def isMalformedInput (e : Error) : Bool :=
  e.malformed?.isSome

end Error

end EdgeCsv.Conversion
