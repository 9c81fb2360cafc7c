import EdgeCsv.Conversion.Convert
import EdgeCsv.LoadScript.Script
import EdgeCsv.Plan.File
import EdgeCsv.Plan.Shown

/-!
# Following a plan

To follow a plan is to convert its dump and then, if it asks for one, to write its load script. The
paths of a plan file are taken from the directory that the file is in; paths that are given apart
from the plan stand as they are and take precedence.
-/

namespace EdgeCsv.Run

/-- Why a piece of work failed. -/
inductive Failure
  | plan (e : Plan.Error)
  /-- The conversion of the dump at a path failed. -/
  | conversion (input : Path) (e : Conversion.Error)
  | loadScript (e : LoadScript.Error)
  | file (e : IoError)
  | unsupportedExporter (name : String)
  deriving DecidableEq, Repr

namespace Failure

/-- Whose fault it is that a conversion failed. -/
def blame (e : Conversion.Error) : String :=
  if e.isSystemFailure then "I/O error"
  else if e.isMalformedInput then "malformed input"
  else "unknown"

/-- The failure in words and, behind it, what it comes from, step by step. -/
def chain : Failure → List String
  | .plan e => e.message :: e.reason?.toList
  | .conversion input e =>
    ("Conversion of " ++ input.display ++ " failed (" ++ blame e ++ ")") :: e.message ::
      (e.reason?.map IoError.message).toList
  | .loadScript e => ["Bulk-load script generation failed", e.message, e.reason]
  | .file e => [e.message]
  | .unsupportedExporter name => ["Unsupported exporter: " ++ name]

/-- The failure in words. -/
def message (f : Failure) : String :=
  f.chain.headD ""

end Failure

/-- Paths that take precedence over those of a plan. -/
structure Overrides where
  /-- The dump to read. -/
  input : Option Path := none
  /-- The CSV to write. -/
  output : Option Path := none
  /-- Where the load script goes. -/
  loadScript : Option Path := none
  deriving DecidableEq, Repr

namespace Overrides

/-- The load script with another path; a plan without one gets one. -/
def script (o : Overrides) (s : Option Plan.Script) : Option Plan.Script :=
  match o.loadScript, s with
  | none, s => s
  | some output, some s => some { s with output }
  | some output, none => some { output }

/-- A plan with the paths replaced. -/
def apply (o : Overrides) (plan : Plan) : Plan :=
  { plan with
    convert := ⟨o.input.getD plan.convert.input, o.output.getD plan.convert.output⟩
    loadScript := o.script plan.loadScript }

end Overrides

/-- Something that is said while a plan is followed. -/
def event (level : Log.Level) (message : String) : Log.Event where
  level := level
  origin := .running
  message := message

/-- Writes the load script of a plan, if it asks for one. -/
def writeScript (plan : Plan) : Action Failure Unit :=
  match plan.loadScript with
  | none => pure ()
  | some s =>
    (LoadScript.write plan.name s.output s.csvUrl plan.convert.output).mapError .loadScript

/-- Follows a plan. -/
def follow (plan : Plan) : Action Failure Conversion.Summary := do
  Action.say (event .info ("Executing plan: " ++ plan.name))
  Action.say (event .debug ("Plan: " ++ plan.shown))
  let summary ← (Conversion.convert plan.convert.input plan.convert.output).mapError
    (.conversion plan.convert.input)
  writeScript plan
  return summary

/-- Follows the plan in a file. -/
def followFile (p : Path) (overrides : Overrides) : Action Failure Conversion.Summary := do
  Action.say (event .info ("Loading plan: " ++ p.display))
  let plan ← (Plan.load p).mapError .plan
  match p.parent? with
  | none => Action.fail (.plan (.noParentDirectory p))
  | some base => follow (overrides.apply (plan.resolve base))

/-- Follows the default plan. -/
def followDefault (overrides : Overrides) : Action Failure Conversion.Summary :=
  follow (overrides.apply .default)

end EdgeCsv.Run
