import EdgeCsv.Run

/-!
# Making plans and templates
-/

namespace EdgeCsv.Generate

/-- Something that is said while something is made. -/
def event (level : Log.Level) (message : String) : Log.Event where
  level := level
  origin := .commands
  message := message

/-- The template of an exporter, as it is written down. There is one exporter. -/
def template (exporter : String) : Action Run.Failure String := do
  Action.say (event .info ("Generating exporter template: " ++ exporter))
  if exporter = "cypher" then return LoadScript.template.source
  else
    Action.say (event .error ("Unsupported exporter: " ++ exporter ++ " - use cypher"))
    Action.fail (.unsupportedExporter exporter)

/-- Writes the default plan to a file. A plan file takes relative paths from its own directory, so
the paths are written as they are seen from the working directory: then the plan does the same as no
plan at all does here. -/
def plan (p : Path) : Action Run.Failure Unit := do
  Action.say (event .info ("Initializing plan: " ++ p.display))
  let text ← Action.ask fun fs =>
    ((Plan.default.resolve fs.workingDirectory).toYaml).mapError .plan
  (Files.writeText p text).mapError .file

end EdgeCsv.Generate
