import EdgeCsv.Plan.Basic
import EdgeCsv.Yaml.Document

/-!
# Reading a plan

A plan is read from a YAML document. What the document leaves out takes its default; only a load
script has to say where it goes. Keys that a plan does not know are passed over.
-/

namespace EdgeCsv.Plan

open Yaml (Document Items Trail)

/-- Reads a path. -/
def readPath (doc : Document) (trail : Trail) (items : Items) :
    Except Yaml.Error (Path × Items) :=
  (doc.readText "path string" trail items).map fun (s, rest) => (.ofString s, rest)

/-- Reads a text that may be missing. -/
def readOptionalText (doc : Document) (trail : Trail) (items : Items) :
    Except Yaml.Error (Option String × Items) :=
  doc.readOption (doc.readText "a string" trail) items

/-- The fields of what a plan says about itself. -/
structure About.Draft where
  /-- The name, if it has been read. -/
  name : Option (Option String) := none

/-- Reads what a plan says about itself. -/
def About.read (doc : Document) (trail : Trail) (items : Items) :
    Except Yaml.Error (About × Items) :=
  doc.readRecord "struct Meta"
    (fun
      | "name" => some (Document.once "name" Draft.name (fun d a => { d with name := some a })
          (readOptionalText doc))
      | _ => none)
    {} (fun d => .ok ⟨d.name.getD none⟩) trail items

/-- The fields of what is converted. -/
structure Profile.Draft where
  /-- The dump, if it has been read. -/
  input : Option Path := none
  /-- The CSV, if it has been read. -/
  output : Option Path := none

/-- Reads what is converted. -/
def Profile.read (doc : Document) (trail : Trail) (items : Items) :
    Except Yaml.Error (Profile × Items) :=
  doc.readRecord "struct ConvertProfile"
    (fun
      | "input" => some (Document.once "input" Draft.input (fun d a => { d with input := some a })
          (readPath doc))
      | "output" => some (Document.once "output" Draft.output
          (fun d a => { d with output := some a }) (readPath doc))
      | _ => none)
    {} (fun d => .ok ⟨d.input.getD defaultInput, d.output.getD defaultOutput⟩) trail items

/-- The fields of a load script. -/
structure Script.Draft where
  /-- Where it goes, if that has been read. -/
  output : Option Path := none
  /-- The URL, if it has been read. -/
  csvUrl : Option (Option String) := none

/-- A load script from its fields. -/
def Script.ofDraft (d : Draft) : Except Yaml.Complaint Script :=
  match d.output with
  | none => .error (.missingField "output")
  | some output => .ok ⟨output, d.csvUrl.getD none⟩

/-- Reads a load script. -/
def Script.read (doc : Document) (trail : Trail) (items : Items) :
    Except Yaml.Error (Script × Items) :=
  doc.readRecord "struct LoadScriptProfile"
    (fun
      | "output" => some (Document.once "output" Draft.output
          (fun d a => { d with output := some a }) (readPath doc))
      | "csv_url" => some (Document.once "csv_url" Draft.csvUrl
          (fun d a => { d with csvUrl := some a }) (readOptionalText doc))
      | _ => none)
    {} ofDraft trail items

/-- The fields of a plan. -/
structure Draft where
  /-- What it says about itself, if that has been read. -/
  about : Option (Option About) := none
  /-- What is converted, if that has been read. -/
  convert : Option Profile := none
  /-- The load script, if it has been read. -/
  loadScript : Option (Option Script) := none

/-- Reads a plan. -/
def read (doc : Document) (items : Items) : Except Yaml.Error (Plan × Items) :=
  doc.readRecord "struct Plan"
    (fun
      | "meta" => some (Document.once "meta" Draft.about (fun d a => { d with about := some a })
          fun trail => doc.readOption (About.read doc trail))
      | "convert" => some (Document.once "convert" Draft.convert
          (fun d a => { d with convert := some a }) (Profile.read doc))
      | "load_script" => some (Document.once "load_script" Draft.loadScript
          (fun d a => { d with loadScript := some a })
          fun trail => doc.readOption (Script.read doc trail))
      | _ => none)
    {} (fun d => .ok ⟨d.about.getD none, d.convert.getD {}, d.loadScript.getD none⟩) [] items

/-- The plan that a text describes. -/
def ofYaml (text : String) : Except Yaml.Error Plan :=
  Document.readOnly text read

end EdgeCsv.Plan
