import EdgeCsv.Action
import EdgeCsv.Conversion.Writer

/-!
# Converting a file

The dump is read whole before the CSV is created or emptied, so both may be the same file. The rows
go to the CSV through a buffer; what is left in it is passed on at the end, also when a malformed
line ended the conversion, and then nobody asks whether that worked.
-/

namespace EdgeCsv.Conversion

/-- The size of the buffer in front of the CSV. -/
def bufferSize : Nat := 8192

/-- Said at the start. -/
def converting (input output : Path) : Log.Event where
  level := .info
  origin := .conversion
  message := "Converting " ++ input.display ++ " -> " ++ output.display

/-- Said when the dump cannot be read. -/
def cannotRead (input : Path) (e : IoError) : Log.Event where
  level := .error
  origin := .conversion
  message := "Cannot read " ++ input.display ++ ": " ++ e.message

/-- Said when the CSV cannot be created. -/
def cannotCreate (output : Path) (e : IoError) : Log.Event where
  level := .error
  origin := .conversion
  message := "Cannot create " ++ output.display ++ ": " ++ e.message

/-- Said at the end. -/
def finished (s : Summary) : Log.Event where
  level := .info
  origin := .conversion
  message := "Conversion finished: " ++ s.message

/-- Writes at the end of an opened file. -/
def fileWriter (loc : Location) : Writer FileSystem where
  accept fs bytes := fs.append loc bytes

/-- Writes the rows of a dump to an opened file, through the buffer. -/
def writeFile (dump : Bytes) (loc : Location) (output : Path) : Action Error Summary := fun fs =>
  let w := fileWriter loc
  let (result, s, log) := writeRows (w.buffered bufferSize) ⟨[], fs⟩ dump output
  let (failure, s) := w.flush s
  match result, failure with
  | .ok _, some e => ⟨.error (.writeOutput output e), s.behind, log⟩
  | result, _ => ⟨result, s.behind, log⟩

/-- Converts the dump at `input` into a CSV at `output`. -/
def convert (input output : Path) : Action Error Summary := do
  Action.say (converting input output)
  let dump ← (Action.ask (·.read input)).onError fun e => do
    Action.say (cannotRead input e)
    Action.fail (.readInput input e)
  let loc ← (Action.update (·.create output)).onError fun e => do
    Action.say (cannotCreate output e)
    Action.fail (.createOutput output e)
  let summary ← writeFile dump loc output
  Action.say (finished summary)
  return summary

end EdgeCsv.Conversion
