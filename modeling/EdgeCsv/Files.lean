import EdgeCsv.Action

/-!
# Writing text files

A file is written together with the directories above it that are missing.
-/

namespace EdgeCsv.Files

/-- Said before missing directories are made. -/
def creatingDirectory (directory : Path) : Log.Event where
  level := .info
  origin := .files
  message := "Creating path: " ++ directory.quoted

/-- The directory that has to be made before a file can stand at `p`. A bare name needs none. -/
def missingDirectory? (fs : FileSystem) (p : Path) : Option Path :=
  p.parent?.filter fun directory => directory.bytes ≠ [] && !fs.contains directory

/-- Makes the directories above `p`, unless they are there. -/
def prepareDirectory (p : Path) : Action IoError Unit := do
  match ← Action.ask fun fs => .ok (missingDirectory? fs p) with
  | none => return
  | some directory =>
    Action.say (creatingDirectory directory)
    Action.perform (·.createDirectories directory)

/-- Makes a file with this text, or replaces the text of the one that is there. -/
def writeText (p : Path) (text : String) : Action IoError Unit := do
  prepareDirectory p
  Action.perform (·.write p (Bytes.ofString text))

end EdgeCsv.Files
