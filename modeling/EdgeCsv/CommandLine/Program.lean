import EdgeCsv.CommandLine.Arguments
import EdgeCsv.Generate

/-!
# The program

From the words of a command line to what is printed, the exit code and the file system left behind.
The log and the failure go to the error output; the exit code is 0, 1 for a failure, and 2 for a
command line that makes no sense.
-/

namespace EdgeCsv.CommandLine

/-- What is asked of the program. -/
inductive Request
  /-- Follow the plan in a file, or the default one. -/
  | run (plan : Option Path) (overrides : Run.Overrides)
  /-- Write the default plan to a file. -/
  | init (plan : Path)
  /-- Print the template of an exporter. -/
  | template (exporter : String)
  deriving DecidableEq, Repr

/-- The text of a value that has been checked to be one. -/
def textOf (bytes : Bytes) : String :=
  Utf8.lossy bytes

/-- The request that the innermost command makes. -/
def Request.ofLevels (levels : List (Command × Given)) : Request :=
  let path? (s : Setting) : Option Path := (value? levels s).map Path.mk
  match levels.getLast? with
  | some (.init, _) => .init ((path? .plan).getD ⟨[]⟩)
  | some (.template, g) => .template (textOf (g.name.getD []))
  | _ => .run (path? .plan) ⟨path? .input, path? .output, path? .loadScript⟩

/-- The level of the log that a word stands for, in whatever case; any other word stands for the
usual level. The words are ASCII, so only ASCII letters matter. -/
def levelOf (word : String) : Log.Level :=
  match word.map Char.toLower with
  | "trace" => .trace
  | "debug" => .debug
  | "warn" => .warn
  | "error" => .error
  | _ => .info

/-- The level of the log that a command line asks for. -/
def logLevel (levels : List (Command × Given)) : Log.Level :=
  ((value? levels .logLevel).map fun word => levelOf (textOf word)).getD .info

/-- Something that the program itself says. -/
def event (message : String) : Log.Event where
  level := .info
  origin := .program
  message := message

/-- Fulfils a request; the result is what is printed. -/
def Request.fulfil : Request → Action Run.Failure String
  | .run none overrides => do
    let summary ← Run.followDefault overrides
    Action.say (event ("Done: " ++ summary.message))
    return ""
  | .run (some plan) overrides => do
    Action.say (event ("Running plan: " ++ plan.display))
    let summary ← Run.followFile plan overrides
    Action.say (event ("Done: " ++ summary.message))
    return ""
  | .init plan => do
    Generate.plan plan
    return ""
  | .template exporter => do
    let text ← Generate.template exporter
    return text ++ "\n"

/-- One character of a log line. Characters that a terminal would obey are written by their codes.
-/
def logChar (c : Char) : List Char :=
  let n := c.toNat
  if n = 0x1B ∨ n = 0x07 ∨ n = 0x08 ∨ n = 0x0C ∨ n = 0x7F then
    '\\' :: 'x' :: Nat.digitChar (n / 16) :: [Nat.digitChar (n % 16)]
  else if 0x80 ≤ n ∧ n ≤ 0x9F then
    ['\\', 'u', '\x7b'] ++ Text.hexDigits n ++ ['\x7d']
  else [c]

/-- A line of the log: the level, set to the right of five places, who says it, and what is said. -/
def logLine (e : Log.Event) : String :=
  let level := e.level.name
  String.ofList (List.replicate (5 - level.length) ' ') ++ level ++ " " ++ e.origin.name ++ ": " ++
    String.ofList (e.message.toList.flatMap logChar) ++ "\n"

/-- A text with its lines after the first set in. -/
def hanging (indent : Nat) (text : String) : String :=
  String.ofList (text.toList.flatMap fun c =>
    if c = '\n' then '\n' :: List.replicate indent ' ' else [c])

/-- The causes of a failure, one below the other, numbered if there is more than one. -/
def causesText : List String → String
  | [] => ""
  | [cause] => "\n\nCaused by:\n    " ++ hanging 4 cause
  | causes =>
    let numbered := causes.zipIdx.map fun (cause, n) =>
      let number := toString n
      "\n" ++ String.ofList (List.replicate (5 - number.length) ' ') ++ number ++ ": " ++
        hanging 7 cause
    "\n\nCaused by:" ++ String.join numbered

/-- How a failure is reported. -/
def report (f : Run.Failure) : String :=
  "Error: " ++ f.message ++ causesText f.chain.tail ++ "\n"

/-- How the program ended. -/
structure Ending where
  /-- The exit code. -/
  code : Nat
  /-- What was printed. -/
  printed : String
  /-- What went to the error output. -/
  complained : String
  /-- The file system it left. -/
  files : FileSystem

/-- The name and version of the program. -/
def versionText : String := "cfl-edges-tool 0.1.0\n"

/-- How the program ends without doing anything. -/
def Stop.ending (fs : FileSystem) : Stop → Ending
  | .error e => ⟨2, "", e.message ++ "\n", fs⟩
  | .help c => ⟨0, c.usage ++ "\n", "", fs⟩
  | .version => ⟨0, versionText, "", fs⟩

/-- Does what the words of a command line ask for. -/
def program (words : List Bytes) (fs : FileSystem) : Ending :=
  match read .top {} words with
  | .error stop => stop.ending fs
  | .ok levels =>
    let outcome := (Request.ofLevels levels).fulfil.run fs
    let log := String.join ((Log.heard (logLevel levels) outcome.log).map logLine)
    match outcome.result with
    | .ok text => ⟨0, text, log, outcome.files⟩
    | .error f => ⟨1, "", log ++ report f, outcome.files⟩

end EdgeCsv.CommandLine
