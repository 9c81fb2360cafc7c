import EdgeCsv.Plan.Basic

/-!
# A plan as it is shown in the log

All parts of the plan on one line, each under its name; braces are written by their codes.
-/

namespace EdgeCsv.Plan

/-- A value that may be missing. -/
def shownOption {α : Type} (shown : α → String) : Option α → String
  | none => "None"
  | some a => "Some(" ++ shown a ++ ")"

/-- A group of named values. -/
def shownGroup (name : String) (fields : List (String × String)) : String :=
  name ++ " \x7b " ++ ", ".intercalate (fields.map fun (key, value) => key ++ ": " ++ value) ++
    " \x7d"

/-- What the plan says about itself. -/
def About.shown (a : About) : String :=
  shownGroup "Meta" [("name", shownOption Text.quoted a.name)]

/-- What is converted. -/
def Profile.shown (c : Profile) : String :=
  shownGroup "ConvertProfile" [("input", c.input.quoted), ("output", c.output.quoted)]

/-- The load script. -/
def Script.shown (s : Script) : String :=
  shownGroup "LoadScriptProfile"
    [("output", s.output.quoted), ("csv_url", shownOption Text.quoted s.csvUrl)]

/-- The whole plan. -/
def shown (plan : Plan) : String :=
  shownGroup "Plan"
    [("meta", shownOption About.shown plan.about), ("convert", plan.convert.shown),
      ("load_script", shownOption Script.shown plan.loadScript)]

end EdgeCsv.Plan
