import EdgeCsv.Files
import EdgeCsv.LoadScript.Error

/-!
# Load scripts

A load script tells a graph database to read the CSV and to merge a node for each end and an edge
for each row. The name of the plan and the path of the CSV appear in comments, the URL that the
database reads from in a string literal.
-/

namespace EdgeCsv.LoadScript

/-- A place for a value that goes in as the helper returns it. -/
def place (helper value : String) : Template.Piece :=
  .place ⟨helper, value, false⟩

/-- The comment before the path of the CSV. -/
def bulkLoad : String := " Bulk-load for "

/-- The code before the URL. -/
def loadFrom : String := "LOAD CSV WITH HEADERS FROM "

/-- The code behind the URL. -/
def statements : String :=
  " AS row
MERGE (source:Node \x7bid: toInteger(row.n1)\x7d)
MERGE (target:Node \x7bid: toInteger(row.n2)\x7d)
MERGE (source)-[:EDGE_LABEL \x7blabel: row.label\x7d]->(target);

"

/-- The comments at the end: a sample query. -/
def sampleQuery : List String :=
  [" Nodes reachable from node 1 over an 'A' edge:",
    " MATCH (n1)-[e:EDGE_LABEL \x7blabel: \"A\"\x7d]->(n2) WHERE n1.id = 1",
    " RETURN n2.id"]

/-- What every load script ends with, from the quote behind the URL on. -/
def closing : String :=
  "'" ++ statements ++ String.join (sampleQuery.map fun line => "//" ++ line ++ "\n")

/-- What every load script looks like. -/
def template : Template where
  pieces := [
    .text "// ", place "cypher_comment" "name",
    .text ("\n//" ++ bulkLoad), place "cypher_comment" "csv_path",
    .text ("\n" ++ loadFrom ++ "'"), place "cypher_string" "csv_url",
    .text closing]

/-- The URL that the database reads from if none is given: the CSV in its import directory. -/
def defaultUrl (csvPath : Path) : String :=
  "file:///" ++ Utf8.lossy (csvPath.fileName?.getD [])

/-- The values of the template. -/
def values (name : String) (csvPath : Path) (csvUrl : String) : String → Option Template.Value
  | "name" => some (.text name)
  | "csv_path" => some (.text csvPath.display)
  | "csv_url" => some (.text csvUrl)
  | _ => none

/-- The script that loads the CSV at `csvPath` from `csvUrl`. -/
def render (name : String) (csvPath : Path) (csvUrl : String) : Except Error String :=
  (template.render (values name csvPath csvUrl)).mapError .template

/-- Said when the script cannot be written. -/
def cannotWrite (output : Path) (e : IoError) : Log.Event where
  level := .error
  origin := .loadScript
  message := "Failed to write load script " ++ output.display ++ ": " ++ e.message

/-- Said when the script is written. -/
def written (csvUrl : String) (output : Path) : Log.Event where
  level := .info
  origin := .loadScript
  message := "Bulk-load script for " ++ csvUrl ++ " written to " ++ output.display

/-- Writes the script that loads the CSV at `csvPath` to `output`. -/
def write (name : String) (output : Path) (csvUrl? : Option String) (csvPath : Path) :
    Action Error Unit := do
  let csvUrl := csvUrl?.getD (defaultUrl csvPath)
  let script ← Action.ask fun _ => render name csvPath csvUrl
  (Files.writeText output script).onError fun e => do
    Action.say (cannotWrite output e)
    Action.fail (.write output e)
  Action.say (written csvUrl output)

end EdgeCsv.LoadScript
