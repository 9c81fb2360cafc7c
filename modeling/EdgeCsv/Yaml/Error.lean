import EdgeCsv.Text.Quoted
import EdgeCsv.Yaml.Fault
import EdgeCsv.Yaml.Scalar

/-!
# Why a document cannot be read or written

Either the text is no document, or the document does not have the shape that is asked for. In the
second case the complaint says what was found, and where in the document that was, both as a place
and as the keys that lead there.
-/

namespace EdgeCsv.Yaml

/-- A number in words. -/
def Number.shown : Number → String
  | .finite negative b => (if negative then "-" else "") ++ b.shortest.positional
  | .infinite negative => if negative then "-inf" else "inf"
  | .notANumber => "NaN"

/-- What was found where something else was asked for. -/
inductive Unexpected
  | scalar (s : Scalar)
  | sequence
  | mapping
  deriving DecidableEq, Repr

/-- A text between backquotes. -/
def backquoted (s : String) : String :=
  "\x60" ++ s ++ "\x60"

/-- An integer in words; one that does not fit into 64 bits is said to be wider. -/
def shownInteger (n : Int) : String :=
  let width :=
    if n < Int64.minValue.toInt then " as i128"
    else if UInt64.size ≤ n then " as u128"
    else ""
  "integer " ++ backquoted (toString n) ++ width

/-- What was found, in words. -/
def Unexpected.text : Unexpected → String
  | .scalar .null => "unit value"
  | .scalar (.bool b) => "boolean " ++ backquoted (if b then "true" else "false")
  | .scalar (.integer n) => shownInteger n
  | .scalar (.number x) => "floating point " ++ backquoted x.shown
  | .scalar (.text s) => "string " ++ Text.quoted s
  | .sequence => "sequence"
  | .mapping => "map"

/-- In which way a document does not have the shape that is asked for. -/
inductive Complaint
  | invalidType (found : Unexpected) (expected : String)
  | invalidValue (text : String) (expected : String)
  | duplicateField (name : String)
  | missingField (name : String)
  deriving DecidableEq, Repr

/-- The complaint in words. -/
def Complaint.text : Complaint → String
  | .invalidType found expected =>
    "invalid type: " ++ found.text ++ ", expected " ++ expected
  | .invalidValue text expected =>
    "invalid value: string " ++ Text.quoted text ++ ", expected " ++ expected
  | .duplicateField name => "duplicate field " ++ backquoted name
  | .missingField name => "missing field " ++ backquoted name

/-- The keys that lead to a value, innermost first; `none` for a key that is not written there. -/
abbrev Trail := List (Option String)

/-- The keys in words. -/
def Trail.text (t : Trail) : String :=
  if t = [] then "." else ".".intercalate (t.reverse.map fun key => key.getD "?")

/-- Why a document cannot be read or written. -/
inductive Error
  | fault (f : Fault)
  | unknownAnchor (m : Mark)
  | endOfDocument
  | severalDocuments
  /-- A complaint, and where it belongs unless that is not known yet. -/
  | refused (c : Complaint) (position : Option (Mark × Trail))
  /-- A path that is no text was to be written. -/
  | pathNotText
  deriving DecidableEq, Repr

namespace Error

/-- The error with its place, unless it has one. -/
def locate (m : Mark) (t : Trail) : Error → Error
  | .refused c none => .refused c (some (m, t))
  | e => e

/-- The error in words. -/
def message : Error → String
  | .fault f => f.message
  | .unknownAnchor m => "unknown anchor" ++ m.mention
  | .endOfDocument => "EOF while parsing a value"
  | .severalDocuments =>
    "deserializing from YAML containing more than one document is not supported"
  | .refused c none => c.text
  | .refused c (some (m, t)) =>
    (if t.text = "." then "" else t.text ++ ": ") ++ c.text ++ m.mention
  | .pathNotText => "path contains invalid UTF-8 characters"

end Error

end EdgeCsv.Yaml
