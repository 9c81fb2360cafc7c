import EdgeCsv.IoError
import EdgeCsv.Path
import EdgeCsv.Yaml.Error

/-!
# Why a plan cannot be used
-/

namespace EdgeCsv.Plan

/-- The reason why a plan cannot be read, written or followed. -/
inductive Error
  | read (path : Path) (reason : IoError)
  | parse (path : Path) (reason : Yaml.Error)
  | serialize (reason : Yaml.Error)
  | noParentDirectory (path : Path)
  deriving DecidableEq, Repr

namespace Error

/-- What lies behind the failure, if anything does. -/
def reason? : Error → Option String
  | .read _ e => some e.message
  | .parse _ e => some e.message
  | .serialize e => some e.message
  | .noParentDirectory _ => none

/-- The failure in words. -/
def message : Error → String
  | .read p e => "Failed to read plan '" ++ p.display ++ "': " ++ e.message
  | .parse p e => "Invalid plan '" ++ p.display ++ "': " ++ e.message
  | .serialize e => "Failed to serialize plan: " ++ e.message
  | .noParentDirectory p => "Plan file '" ++ p.display ++ "' has no parent directory"

/-- A short name for each kind of failure. -/
def code : Error → String
  | .read .. => "PLAN_READ_FAILED"
  | .parse .. => "PLAN_INVALID"
  | .serialize _ => "PLAN_SERIALIZE_FAILED"
  | .noParentDirectory _ => "PLAN_NO_PARENT"

end Error

end EdgeCsv.Plan
