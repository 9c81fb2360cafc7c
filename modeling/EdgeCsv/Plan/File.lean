import EdgeCsv.Action
import EdgeCsv.Plan.Error
import EdgeCsv.Plan.Reading
import EdgeCsv.Plan.Writing

/-!
# Plans in files
-/

namespace EdgeCsv.Plan

/-- The document of a plan. -/
def toYaml (plan : Plan) : Except Error String :=
  match plan.toYaml? with
  | some text => .ok text
  | none => .error (.serialize .pathNotText)

/-- Reads a plan from a file. -/
def load (p : Path) : Action Error Plan := do
  let text ← (Action.ask (·.readText p)).mapError (.read p)
  Action.ask fun _ => (ofYaml (String.ofList text)).mapError (.parse p)

end EdgeCsv.Plan
