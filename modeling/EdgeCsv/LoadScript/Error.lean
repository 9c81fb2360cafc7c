import EdgeCsv.IoError
import EdgeCsv.LoadScript.Template
import EdgeCsv.Path

/-!
# Why no load script is written
-/

namespace EdgeCsv.LoadScript

/-- The reason why a load script could not be made. -/
inductive Error
  | template (reason : Template.RenderError)
  | write (path : Path) (reason : IoError)
  deriving DecidableEq, Repr

namespace Error

/-- What lies behind the failure. -/
def reason : Error → String
  | .template e => e.message
  | .write _ e => e.message

/-- The failure in words. -/
def message : Error → String
  | .template e => "Template rendering failed: " ++ e.message
  | .write p e => "Failed to write load script '" ++ p.display ++ "': " ++ e.message

/-- A short name for each kind of failure. -/
def code : Error → String
  | .template _ => "TEMPLATE_ERROR"
  | .write .. => "LOAD_SCRIPT_WRITE_FAILED"

end Error

end EdgeCsv.LoadScript
