import EdgeCsv.Plan.Basic
import EdgeCsv.Yaml.Style

/-!
# Writing a plan down

A plan is written as a YAML document: a mapping of the parts that are there, in a fixed order, each
a mapping of its own. A path that is no text cannot be written.
-/

namespace EdgeCsv.Plan

/-- A text behind its key, in the style that suits it, with the line end. -/
def writeText (key : String) (text : List Char) : List Char :=
  "  ".toList ++ key.toList ++ ": ".toList ++ (Yaml.Style.choose text).write text

/-- A path behind its key, if it is text. -/
def writePath? (key : String) (p : Path) : Option (List Char) :=
  (Utf8.decode? p.bytes).map (writeText key)

/-- What a plan says about itself. -/
def About.write (a : About) : List Char :=
  "meta:\n".toList ++
    match a.name with
    | none => "  name: null\n".toList
    | some name => writeText "name" name.toList

/-- What is converted. -/
def Profile.write? (c : Profile) : Option (List Char) := do
  let input ← writePath? "input" c.input
  let output ← writePath? "output" c.output
  some ("convert:\n".toList ++ input ++ output)

/-- The load script. -/
def Script.write? (s : Script) : Option (List Char) := do
  let output ← writePath? "output" s.output
  let url := s.csvUrl.elim [] fun url => writeText "csv_url" url.toList
  some ("load_script:\n".toList ++ output ++ url)

/-- The document of a plan, unless one of its paths is no text. -/
def toYaml? (plan : Plan) : Option String := do
  let convert ← plan.convert.write?
  let script ← plan.loadScript.elim (some []) Script.write?
  some (String.ofList (plan.about.elim [] About.write ++ convert ++ script))

end EdgeCsv.Plan
